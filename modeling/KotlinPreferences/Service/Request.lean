import KotlinPreferences.Value

/-!
# Requests

What the body of a request has to hold: a document, and for generation three optional fields. All
faults of the fields are listed, in the order of the fields; other fields do not count. The requests
for validation and for the graph have the document alone. A body that is no object has no fields to
look at, which is its only fault.

* `Problem`: what is wrong with a field;
* `RequestFault`: what is wrong with a request, and where;
* `GenerateRequest.read`, `documentOf`: the request that a body gives, or its faults.
-/

namespace KotlinPreferences.Service

/-- What can be wrong with a field. -/
inductive Problem where
  | missing
  | notObject
  | notText
  /-- A text with a surrogate. -/
  | notUnicode
  /-- A value of a kind that is never read as a truth value. -/
  | notTruth
  /-- A text or number that is read as no truth value. -/
  | unreadTruth
  deriving DecidableEq

namespace Problem

/-- The code of a problem. -/
def code : Problem → Text
  | missing => "missing"
  | notObject => "dict_type"
  | notText => "string_type"
  | notUnicode => "string_unicode"
  | notTruth => "bool_type"
  | unreadTruth => "bool_parsing"

/-- The text of a problem. -/
def message : Problem → Text
  | missing => "Field required"
  | notObject => "Input should be a valid dictionary"
  | notText => "Input should be a valid string"
  | notUnicode => "Input should be a valid string, unable to parse raw data as a unicode string"
  | notTruth => "Input should be a valid boolean"
  | unreadTruth => "Input should be a valid boolean, unable to interpret input"

end Problem

/-- A fault of a request. -/
inductive RequestFault where
  /-- The body is no object, as a request of this name is. -/
  | body (request : Text)
  /-- Something is wrong with a field of the body. -/
  | field (name : Text) (problem : Problem)
  /-- The name of a member of a field is a text with a surrogate. -/
  | key (name : Text) (member : Text)
  deriving DecidableEq

namespace RequestFault

/-- A code point as it is shown in a place: three replacement characters for the three bytes that a
surrogate would have. -/
def shownCodePoint : CodePoint → List CodePoint
  | .scalar c => [.scalar c]
  | .surrogate _ => List.replicate 3 (.scalar (Char.ofNat 0xFFFD))

/-- Where a fault lies: the way into the request. -/
def place : RequestFault → List Text
  | body _ => ["body"]
  | field name _ => ["body", name]
  | key name member => ["body", name, .ofList (member.toList.flatMap shownCodePoint), "[key]"]

/-- The code of a fault. -/
def code : RequestFault → Text
  | body _ => "model_type"
  | field _ problem => problem.code
  | key _ _ => Problem.notUnicode.code

/-- The text of a fault. -/
def message : RequestFault → Text
  | body request => "Input should be a valid dictionary or instance of " ++ request
  | field _ problem => problem.message
  | key _ _ => Problem.notUnicode.message

end RequestFault

/-- A field that may be read. -/
abbrev Field (α : Type) := Except Problem α

/-- The texts that are read as true, in lower case. -/
def trueTexts : List Text := ["1", "t", "y", "on", "yes", "true"]

/-- The texts that are read as false, in lower case. -/
def falseTexts : List Text := ["0", "f", "n", "no", "off", "false"]

/-- Whether a whole number fits into a signed word of 64 bits. -/
def fitsWord (n : Int) : Bool := decide (-9223372036854775808 ≤ n ∧ n ≤ 9223372036854775807)

/-- A whole number as a truth value. One that fits into no word is not read at all. -/
def truthOfNumber (n : Int) : Field Bool :=
  if n = 0 then .ok false
  else if n = 1 then .ok true
  else if fitsWord n then .error .unreadTruth
  else .error .notTruth

/-- A text as a truth value, in letters of either case. -/
def truthOfText (s : Text) : Field Bool :=
  if !s.isUnicode then .error .notUnicode
  else if trueTexts.contains s.toLower then .ok true
  else if falseTexts.contains s.toLower then .ok false
  else .error .unreadTruth

/-- A value as a truth value. -/
def truth : Value → Field Bool
  | .bool b => .ok b
  | .int n => truthOfNumber n
  | .double d =>
    match d.whole? with
    | some n => if n = -9223372036854775808 then .error .notTruth else truthOfNumber n
    | none => .error .notTruth
  | .str s => truthOfText s
  | _ => .error .notTruth

/-- A field that may be missing or null. -/
def optional {α : Type} (read : Value → Field α) : Option Value → Field (Option α)
  | none => .ok none
  | some .null => .ok none
  | some v => (read v).map some

/-- A text. -/
def text : Value → Field Text
  | .str s => if s.isUnicode then .ok s else .error .notUnicode
  | _ => .error .notText

/-- A document, as far as a request is concerned, or the faults of its field. The names of its
members have to be Unicode texts; what its members hold is not looked at. -/
def documentField : Option Value → Except (List RequestFault) Value
  | none => .error [.field "cir" .missing]
  | some (.obj members) =>
    match (members.map Prod.fst).filter fun name => !name.isUnicode with
    | [] => .ok (.obj members)
    | names => .error (names.map (.key "cir"))
  | some _ => .error [.field "cir" .notObject]

/-- The fault of a field, if it has one. -/
def faultOf {α : Type} (name : Text) : Field α → List RequestFault
  | .ok _ => []
  | .error problem => [.field name problem]

/-- The members of the body of a request. -/
def members (request : Text) : Value → Except (List RequestFault) Value.Members
  | .obj members => .ok members
  | _ => .error [.body request]

/-- The document among some members, or the faults of the request. -/
def documentAmong (ms : Value.Members) : Except (List RequestFault) Value :=
  documentField (Value.member? ms "cir")

/-- The document of a request that has nothing else, or the faults of the request. -/
def documentOf (body : Value) : Except (List RequestFault) Value :=
  members "CirRequest" body >>= documentAmong

/-- A request to generate. -/
structure GenerateRequest where
  document : Value
  policy : Option Text
  escapeLiterals : Option Bool
  writeToDisk : Bool

/-- The request that some members give, or all its faults. -/
def GenerateRequest.ofMembers (ms : Value.Members) :
    Except (List RequestFault) GenerateRequest :=
  let cir := documentAmong ms
  let policy := optional text (Value.member? ms "invalid_property_policy")
  let escaped := optional truth (Value.member? ms "escape_literals")
  let toDisk := truth ((Value.member? ms "write_to_disk").getD (.bool false))
  match cir, policy, escaped, toDisk with
  | .ok v, .ok p, .ok e, .ok w => .ok ⟨v, p, e, w⟩
  | _, _, _, _ =>
    let faults := match cir with
      | .ok _ => []
      | .error faults => faults
    .error (faults ++ faultOf "invalid_property_policy" policy ++
      faultOf "escape_literals" escaped ++ faultOf "write_to_disk" toDisk)

/-- The request that a body gives, or all its faults. -/
def GenerateRequest.read (body : Value) : Except (List RequestFault) GenerateRequest :=
  members "GenerateRequest" body >>= GenerateRequest.ofMembers

end KotlinPreferences.Service
