import KotlinPreferences.Kotlin.HolderClass
import KotlinPreferences.Proofs.Kotlin.Literal
import KotlinPreferences.Proofs.Text.Fields

/-!
# What the text of a class tells about its variables

A class is a text of lines, and each of its variables takes twelve of them. As long as its literals
are escaped, none of them brings in a line break of its own, so the lines can be told apart; and each
line tells what was put into it.

* `fields_unlines`, `unlines_injective`: the lines of a text;
* `escape_injective`, `break_notMem_escape`: an escaped text tells what it denotes, on one line;
* `Accessor.Legible`: a variable whose parts do not run into each other;
* `Accessor.Legible.eq_of_escapedLines`: the twelve lines of a variable tell it;
* `HolderClass.render_determines`: the text of a class tells its variables.
-/

namespace KotlinPreferences.Kotlin

/-! ### Lines -/

theorem toList_unlines (lines : List Text) :
    (unlines lines).toList = lines.flatMap fun line => line.toList ++ [CodePoint.scalar '\n'] := by
  simp [unlines, Text.toList_join, List.flatMap_map]

theorem unlines_append (lines more : List Text) :
    unlines (lines ++ more) = unlines lines ++ unlines more := by
  apply Text.toList_injective
  rw [Text.toList_append, toList_unlines, toList_unlines, toList_unlines, List.flatMap_append]

/-- Cut at its line breaks, a text of lines gives the lines, and an empty rest. -/
theorem fields_unlines {lines : List Text} (h : ∀ line ∈ lines, .scalar '\n' ∉ line.toList) :
    Text.fields '\n' (unlines lines).toList = lines.map Text.toList ++ [[]] := by
  rw [toList_unlines]
  induction lines with
  | nil => rfl
  | cons line rest ih =>
    obtain ⟨hline, hrest⟩ := List.forall_mem_cons.1 h
    rw [List.flatMap_cons, List.append_assoc, List.singleton_append, Text.fields_append,
      Text.fields_of_notMem hline, ih hrest]
    rfl

/-- A text of lines without breaks of their own tells them. -/
theorem unlines_injective {lines lines' : List Text} (h : ∀ line ∈ lines, .scalar '\n' ∉ line.toList)
    (h' : ∀ line ∈ lines', .scalar '\n' ∉ line.toList) (heq : unlines lines = unlines lines') :
    lines = lines' := by
  have hfields := congrArg (fun text : Text => Text.fields '\n' text.toList) heq
  simp only [fields_unlines h, fields_unlines h'] at hfields
  exact List.map_injective_iff.2 (fun _ _ => Text.toList_injective)
    (List.append_cancel_right hfields)

/-! ### Escaped texts -/

/-- An escaped text tells the text that it denotes. -/
theorem escape_injective : Function.Injective escape := by
  intro v w h
  have hread : ∀ v : Text,
      readChars ((escape v).toList ++ [CodePoint.scalar '"']) = some (v.toList, []) :=
    fun v => by rw [escape, Text.toList_ofList, readChars_flatMap_escapeChar]
  have hchars := hread v
  rw [h, hread w, Option.some.injEq, Prod.mk.injEq] at hchars
  exact Text.toList_injective hchars.1.symm

theorem break_notMem_escapeChar (c : CodePoint) : .scalar '\n' ∉ escapeChar c := by
  unfold escapeChar
  split_ifs with hbackslash hquote hdollar hnewline hreturn htab
  · decide
  · decide
  · decide
  · decide
  · decide
  · decide
  · simpa [eq_comm] using hnewline

/-- An escaped text stays on one line. -/
theorem break_notMem_escape (v : Text) : .scalar '\n' ∉ (escape v).toList := by
  rw [escape, Text.toList_ofList, List.mem_flatMap]
  rintro ⟨c, -, hc⟩
  exact break_notMem_escapeChar c hc

/-! ### Variables -/

namespace Accessor

/-- A variable of a class with a store of some name, which can be told from its text: its key and its
default are texts, and none of its other parts ends where it does not seem to. -/
structure Legible (storeParam : Text) (a : Accessor) : Prop where
  storeParam_eq : a.storeParam = storeParam
  name_colon : .scalar ':' ∉ a.name.toList
  name_break : .scalar '\n' ∉ a.name.toList
  declaredType_break : .scalar '\n' ∉ a.declaredType.toList
  converter_break : .scalar '\n' ∉ a.converter.toList
  key_isText : a.key.isText = true
  default_isText : a.default.isText = true

/-- The lines of a variable whose literals are escaped. -/
def escapedLines (a : Accessor) : List Text :=
  a.lines (escape a.key.text) (escape a.default.text)

theorem length_escapedLines (a : Accessor) : a.escapedLines.length = 12 := rfl

variable {storeParam : Text} {a b : Accessor}

/-- A legible variable can be written with its literals escaped. -/
theorem Legible.render?_eq (h : Legible storeParam a) :
    a.render? true = some (unlines a.escapedLines) := by
  obtain ⟨key, hkey⟩ := Value.isText_cases h.key_isText
  obtain ⟨default, hdefault⟩ := Value.isText_cases h.default_isText
  simp [render?, literal?, escapedLines, hkey, hdefault]

/-- None of its lines holds a line break, whatever its key and its default hold. -/
theorem Legible.break_notMem (h : Legible storeParam a) (hparam : .scalar '\n' ∉ storeParam.toList) :
    ∀ line ∈ a.escapedLines, .scalar '\n' ∉ line.toList := by
  have hkey := break_notMem_escape a.key.text
  have hdefault := break_notMem_escape a.default.text
  have hparam : .scalar '\n' ∉ a.storeParam.toList := h.storeParam_eq ▸ hparam
  simp [escapedLines, lines, h.name_break, h.declaredType_break, h.converter_break, hkey, hdefault,
    hparam]

/-- The lines of a variable tell the variable. -/
theorem Legible.eq_of_escapedLines (ha : Legible storeParam a) (hb : Legible storeParam b)
    (h : a.escapedLines = b.escapedLines) : a = b := by
  simp only [escapedLines, lines, List.cons.injEq] at h
  obtain ⟨hfirst, -, hconverter, hkey, hdefault, -⟩ := h
  -- the name reaches up to the first colon
  have hcolon : a.name.toList ++ .scalar ':' :: .scalar ' ' :: a.declaredType.toList =
      b.name.toList ++ .scalar ':' :: .scalar ' ' :: b.declaredType.toList := by
    simpa using congrArg Text.toList hfirst
  obtain ⟨hname, htype⟩ := Text.append_cons_inj_of_notMem ha.name_colon hb.name_colon hcolon
  have hstore : a.storeParam = b.storeParam := ha.storeParam_eq.trans hb.storeParam_eq.symm
  have hconverter : a.converter = b.converter := by simpa using hconverter
  have hkey : escape a.key.text = escape b.key.text := by simpa [hstore] using hkey
  have hdefault : escape a.default.text = escape b.default.text := by simpa using hdefault
  cases a
  cases b
  simp only [Accessor.mk.injEq]
  exact ⟨Text.toList_injective hname, Text.toList_injective (List.cons.inj htype).2,
    Value.eq_of_text ha.key_isText hb.key_isText (escape_injective hkey),
    Value.eq_of_text ha.default_isText hb.default_isText (escape_injective hdefault),
    hconverter, hstore⟩

end Accessor

/-! ### Classes -/

/-- A list can be told from what its elements give one behind another, if each gives equally much and
can be told from that. -/
theorem eq_of_flatMap_eq {α β : Type} {f : α → List β} {P : α → Prop} {n : Nat}
    (hlength : ∀ a, (f a).length = n) (hpos : 0 < n)
    (hinj : ∀ a b, P a → P b → f a = f b → a = b) {l m : List α} (hl : ∀ a ∈ l, P a)
    (hm : ∀ b ∈ m, P b) (h : l.flatMap f = m.flatMap f) : l = m := by
  have hne : ∀ a, f a ≠ [] := fun a hnil => by
    have hzero := hlength a
    rw [hnil, List.length_nil] at hzero
    omega
  induction l generalizing m with
  | nil =>
    cases m with
    | nil => rfl
    | cons b rest => simp [hne b] at h
  | cons a rest ih =>
    cases m with
    | nil => simp [hne a] at h
    | cons b more =>
      obtain ⟨ha, hrest⟩ := List.forall_mem_cons.1 hl
      obtain ⟨hb, hmore⟩ := List.forall_mem_cons.1 hm
      rw [List.flatMap_cons, List.flatMap_cons] at h
      obtain ⟨hfirst, h⟩ := List.append_inj h ((hlength a).trans (hlength b).symm)
      rw [hinj a b ha hb hfirst, ih hrest hmore h]

namespace HolderClass

variable {c : HolderClass} {as bs : List Accessor}

theorem mapM_render?_eq (h : ∀ a ∈ as, a.Legible c.storeParam) :
    as.mapM (fun a => a.render? true) = some (as.map fun a => unlines a.escapedLines) := by
  induction as with
  | nil => rfl
  | cons a rest ih =>
    obtain ⟨ha, hrest⟩ := List.forall_mem_cons.1 h
    rw [List.mapM_cons, ha.render?_eq, ih hrest]
    rfl

theorem join_unlines (f : Accessor → List Text) (as : List Accessor) :
    Text.join (as.map fun a => unlines (f a)) = unlines (as.flatMap f) := by
  induction as with
  | nil => rfl
  | cons a rest ih => rw [List.map_cons, List.flatMap_cons, unlines_append, ← ih, Text.join_cons]

theorem break_notMem_flatMap (hparam : .scalar '\n' ∉ c.storeParam.toList)
    (h : ∀ a ∈ as, a.Legible c.storeParam) :
    ∀ line ∈ as.flatMap Accessor.escapedLines, .scalar '\n' ∉ line.toList := by
  intro line hline
  obtain ⟨a, ha, hline⟩ := List.mem_flatMap.1 hline
  exact (h a ha).break_notMem hparam line hline

/-- **With its literals escaped, the text of a class determines its variables.** Each variable takes
twelve lines without line breaks of their own, whatever its key and its default hold. Where two
classes agree in all but their variables, they have the same text only if they have the same
variables. -/
theorem render_determines (c : HolderClass) (hparam : .scalar '\n' ∉ c.storeParam.toList)
    (has : ∀ a ∈ as, a.Legible c.storeParam) (hbs : ∀ b ∈ bs, b.Legible c.storeParam) :
    (∀ a ∈ as, ∃ lines, a.render? true = some (unlines lines) ∧ lines.length = 12 ∧
      ∀ line ∈ lines, .scalar '\n' ∉ line.toList) ∧
    ∃ texts texts', as.mapM (fun a => a.render? true) = some texts ∧
      bs.mapM (fun b => b.render? true) = some texts' ∧
      (c.render texts = c.render texts' ↔ as = bs) := by
  refine ⟨fun a ha => ⟨_, (has a ha).render?_eq, rfl, (has a ha).break_notMem hparam⟩,
    _, _, mapM_render?_eq has, mapM_render?_eq hbs, fun h => ?_, fun h => by rw [h]⟩
  -- what the two texts have in common around their variables is taken away
  rw [render, render, Text.append_left_inj, Text.append_right_inj, join_unlines,
    join_unlines] at h
  have hlines := unlines_injective (break_notMem_flatMap hparam has)
    (break_notMem_flatMap hparam hbs) h
  exact eq_of_flatMap_eq Accessor.length_escapedLines (by decide)
    (fun _ _ ha hb => ha.eq_of_escapedLines hb) has hbs hlines

/-- A class without a package. -/
def sample : HolderClass := ⟨"", "Settings", "store", "Store"⟩

/-- A variable with a default. -/
def sampleAccessor (default : Text) : Accessor :=
  ⟨"theme", "kotlin.String", .str "theme", .str default, "StringConverter", "store"⟩

theorem legible_sampleAccessor (default : Text) :
    (sampleAccessor default).Legible sample.storeParam where
  storeParam_eq := rfl
  name_colon := show .scalar ':' ∉ Text.toList "theme" by decide
  name_break := show .scalar '\n' ∉ Text.toList "theme" by decide
  declaredType_break := show .scalar '\n' ∉ Text.toList "kotlin.String" by decide
  converter_break := show .scalar '\n' ∉ Text.toList "StringConverter" by decide
  key_isText := rfl
  default_isText := rfl

/-- A default that imitates the lines behind it gives another text than the default without them. -/
theorem render_sample : .scalar '\n' ∉ sample.storeParam.toList ∧ ∃ texts texts',
    [sampleAccessor "dark\"\n            return converter.parse(rawValue)\n        \x7d\n"].mapM
      (fun a => a.render? true) = some texts ∧
    [sampleAccessor "dark"].mapM (fun a => a.render? true) = some texts' ∧
    sample.render texts ≠ sample.render texts' := by
  have hparam : .scalar '\n' ∉ sample.storeParam.toList := by decide
  have hlegible : ∀ default, ∀ a ∈ [sampleAccessor default], a.Legible sample.storeParam := by
    simpa using legible_sampleAccessor
  obtain ⟨-, texts, texts', htexts, htexts', hiff⟩ :=
    render_determines sample hparam (hlegible _) (hlegible _)
  refine ⟨hparam, texts, texts', htexts, htexts', fun h => ?_⟩
  simpa [sampleAccessor] using hiff.1 h

end HolderClass

end KotlinPreferences.Kotlin
