import KotlinPreferences.Proofs.Document.Graph
import KotlinPreferences.Proofs.SymbolGraph.Supertypes

/-!
# Assignability

When a value of one type may stand where another type is expected, said without a search.

* `Widens`, `Assignable`: the relation between a target and a source;
* `isAssignable_of_keyed`, `isAssignable_eq`: the check decides it;
* `Declared.isAssignable_cases`: where not all supertypes are types, the check may fail;
* `isAssignable_congr`: edges that lead to no supertype do not matter to the check;
* `Assignable.refl`, `Assignable.trans`: the relation is a preorder where names tell types apart and
  nothing stands above `kotlin.Any`;
* `isAssignable_of_read`: on the graph of an accepted document the check always answers, and decides
  the relation;
* `isAssignable_preorder`: there it is a preorder too.
-/

namespace KotlinPreferences

namespace SymbolGraph

open Relation

variable {g : SymbolGraph} {target source a b c : TypeRef}

/-! ### The relation -/

/-- A target without arguments takes any, and one with arguments takes the same. -/
def ArgumentsFit (target source : TypeRef) : Prop :=
  target.arguments = [] ∨ target.arguments = source.arguments

/-- Whether or not there is null among its values, a type is part of another one. -/
inductive Widens (g : SymbolGraph) (target source : TypeRef) : Prop
  /-- Everything is part of `kotlin.Any`. -/
  | any (hname : target.name = Vocabulary.anyType)
  /-- A type is part of itself. -/
  | same (hname : target.name = source.name) (hfit : ArgumentsFit target source)
  /-- The type found by the name of the source has a supertype of the name of the target. -/
  | supertype (hname : target.name ≠ source.name) (hfit : ArgumentsFit target source)
      {d : Declaration} (hd : g.typeNamed? (.str source.name) = some d)
      {t : TypeDecl} (ht : t ∈ g.typeDecls) (htarget : t.qualifiedName = .str target.name)
      (hpath : TransGen g.Extends d.id t.id)

/-- A value of the type `source` may stand where the type `target` is expected. -/
structure Assignable (g : SymbolGraph) (target source : TypeRef) : Prop where
  null : source.nullable = false ∨ target.nullable = true
  widens : g.Widens target source

theorem assignable_iff_widens (hnull : source.nullable = false ∨ target.nullable = true) :
    g.Assignable target source ↔ g.Widens target source :=
  ⟨fun h => h.widens, fun h => ⟨hnull, h⟩⟩

theorem widens_iff_of_eq (hany : target.name ≠ Vocabulary.anyType)
    (hname : target.name = source.name) :
    g.Widens target source ↔ ArgumentsFit target source := by
  constructor
  · intro h
    cases h with
    | any h => exact absurd h hany
    | same _ hfit => exact hfit
    | supertype hne => exact absurd hname hne
  · exact .same hname

theorem widens_iff_of_ne (hany : target.name ≠ Vocabulary.anyType)
    (hname : target.name ≠ source.name) :
    g.Widens target source ↔ ArgumentsFit target source ∧
      ∃ d, g.typeNamed? (.str source.name) = some d ∧ ∃ t ∈ g.typeDecls,
        t.qualifiedName = .str target.name ∧ TransGen g.Extends d.id t.id := by
  constructor
  · intro h
    cases h with
    | any h => exact absurd h hany
    | same h => exact absurd h hname
    | supertype _ hfit hd ht htarget hpath => exact ⟨hfit, _, hd, _, ht, htarget, hpath⟩
  · rintro ⟨hfit, d, hd, t, ht, htarget, hpath⟩
    exact .supertype hname hfit hd ht htarget hpath

/-! ### The check decides the relation -/

/-- A name leads to a type of that name. -/
theorem WellFormed.exists_of_typeNamed? (h : g.WellFormed) {q : Text} {d : Declaration}
    (hd : g.typeNamed? (.str q) = some d) :
    ∃ t ∈ g.typeDecls, d = .typeDecl t ∧ t.qualifiedName = .str q := by
  rw [typeNamed?_eq_find? h.declared h.indexed, Option.map_eq_some_iff] at hd
  obtain ⟨t, ht, rfl⟩ := hd
  refine ⟨t, List.mem_reverse.1 (List.mem_of_find?_eq_some ht), rfl, ?_⟩
  simpa [Value.key?_eq_str_iff] using List.find?_some ht

/-- What the name of the target leads to can be reached from what the name of the source leads to. -/
theorem WellFormed.widens_of_transGen (h : g.WellFormed) {id other : Text}
    (hne : target.name ≠ source.name) (hfit : ArgumentsFit target source)
    (hsource : (g.typeNamed? (.str source.name)).map Declaration.id = some id)
    (htarget : (g.typeNamed? (.str target.name)).map Declaration.id = some other)
    (hpath : TransGen g.Extends id other) : g.Widens target source := by
  obtain ⟨d, hd, rfl⟩ := Option.map_eq_some_iff.1 hsource
  obtain ⟨u, hu, rfl⟩ := Option.map_eq_some_iff.1 htarget
  obtain ⟨t, ht, rfl, hname⟩ := h.exists_of_typeNamed? hu
  exact .supertype hne hfit hd ht hname hpath

theorem argumentsFit_iff : ArgumentsFit target source ↔
    (target.arguments.isEmpty || target.arguments == source.arguments) = true := by
  rw [ArgumentsFit, Bool.or_eq_true, List.isEmpty_iff, beq_iff_eq]

theorem not_argumentsFit_iff : ¬ ArgumentsFit target source ↔
    (!target.arguments.isEmpty && target.arguments != source.arguments) = true := by
  simp [ArgumentsFit]

theorem null_of_not (h : ¬(source.nullable && !target.nullable) = true) :
    source.nullable = false ∨ target.nullable = true := by
  simpa [or_iff_not_imp_left] using h

theorem any_key_iff {names : List Value} {q : Text} :
    (names.any fun name => name.key? == some (.str q)) = true ↔ .str q ∈ names := by
  rw [List.any_eq_true]
  constructor
  · rintro ⟨name, hname, hkey⟩
    rwa [Value.key?_eq_str_iff.1 (beq_iff_eq.1 hkey)] at hname
  · intro h
    exact ⟨_, h, by simp⟩

/-- A type of another name is a supertype if some type of that name can be reached. -/
theorem WellFormed.mem_supertypes_iff (h : g.WellFormed) {q : Text} {d : Declaration}
    (hd : g.typeNamed? (.str q) = some d) (hne : target.name ≠ q) {names : List Value}
    (hread : ∀ name, name ∈ names ↔
      ∃ t ∈ g.typeDecls, t.qualifiedName = name ∧ t.id ≠ d.id ∧ TransGen g.Extends d.id t.id) :
    .str target.name ∈ names ↔ ∃ t ∈ g.typeDecls, t.qualifiedName = .str target.name ∧
      TransGen g.Extends d.id t.id := by
  rw [hread]
  constructor
  · rintro ⟨t, ht, hname, -, hpath⟩
    exact ⟨t, ht, hname, hpath⟩
  · rintro ⟨t, ht, hname, hpath⟩
    refine ⟨t, ht, hname, fun hid => ?_, hpath⟩
    -- a search never comes back to where it began, but what stands there has the name of the source
    obtain ⟨u, hu, rfl, hsource⟩ := h.exists_of_typeNamed? hd
    have hsame := h.declared.mem_typeDecls_iff.1 ht
    rw [hid, show Declaration.id (.typeDecl u) = u.id from rfl,
      h.declared.mem_typeDecls_iff.1 hu, Option.some.injEq, Declaration.typeDecl.injEq] at hsame
    rw [← hsame, hsource, Value.str.injEq] at hname
    exact hne hname.symm

/-- The check answers, and the answer is whether the relation holds. -/
theorem WellFormed.isAssignable_of_keyed (h : g.WellFormed) (hkeyed : g.Keyed)
    (target source : TypeRef) :
    ∃ answer, g.isAssignable target source = .ok answer ∧
      (answer = true ↔ g.Assignable target source) := by
  unfold isAssignable
  split_ifs with hnull hany hsame hunfit
  · refine ⟨false, rfl, by simp, fun ha => ?_⟩
    rcases ha.null with hnone | hnone <;> simp [hnone] at hnull
  · rw [assignable_iff_widens (null_of_not hnull)]
    exact ⟨true, rfl, by simp [Widens.any hany]⟩
  · rw [assignable_iff_widens (null_of_not hnull), widens_iff_of_eq hany hsame.symm,
      argumentsFit_iff]
    exact ⟨_, rfl, Iff.rfl⟩
  · rw [assignable_iff_widens (null_of_not hnull), widens_iff_of_ne hany (Ne.symm hsame)]
    exact ⟨false, rfl, by simp, fun hw => absurd hw.1 (not_argumentsFit_iff.2 hunfit)⟩
  · have hfit : ArgumentsFit target source := not_not.1 fun hn => hunfit (not_argumentsFit_iff.1 hn)
    rw [assignable_iff_widens (null_of_not hnull), widens_iff_of_ne hany (Ne.symm hsame)]
    cases hd : g.typeNamed? (.str source.name) with
    | none => exact ⟨false, rfl, by simp⟩
    | some d =>
      obtain ⟨names, hread, hmem⟩ := h.supertypes_total hkeyed d.id
      refine ⟨names.any fun name => name.key? == some (.str target.name), ?_, ?_⟩
      · simp only [hread, ok_bind, pure_eq_ok]
      · rw [any_key_iff, h.mem_supertypes_iff hd (Ne.symm hsame) hmem]
        constructor
        · intro hpath
          exact ⟨hfit, d, rfl, hpath⟩
        · rintro ⟨-, d', hd', hpath⟩
          cases hd'
          exact hpath

theorem WellFormed.isAssignable_eq (h : g.WellFormed)
    (hnames : ∀ t ∈ g.typeDecls, t.qualifiedName.isText = true) (target source : TypeRef) :
    ∃ answer, g.isAssignable target source = .ok answer ∧
      (answer = true ↔ g.Assignable target source) :=
  h.isAssignable_of_keyed (h.declared.keyed hnames) target source

theorem WellFormed.isAssignable_iff (h : g.WellFormed)
    (hnames : ∀ t ∈ g.typeDecls, t.qualifiedName.isText = true) :
    g.isAssignable target source = .ok true ↔ g.Assignable target source := by
  obtain ⟨answer, hanswer, hiff⟩ := h.isAssignable_eq hnames target source
  rw [hanswer, Except.ok.injEq, hiff]

/-- Whatever stands at the ends of the edges to supertypes, the check answers, or it comes across what
is no type. -/
theorem Declared.isAssignable_cases (h : g.Declared) (hclosed : g.Closed) (hkeyed : g.Keyed)
    (target source : TypeRef) :
    (∃ answer, g.isAssignable target source = .ok answer) ∨
      g.isAssignable target source = .error .wrongShape := by
  unfold isAssignable
  split_ifs
  · exact .inl ⟨_, rfl⟩
  · exact .inl ⟨_, rfl⟩
  · exact .inl ⟨_, rfl⟩
  · exact .inl ⟨_, rfl⟩
  · cases g.typeNamed? (.str source.name) with
    | none => exact .inl ⟨_, rfl⟩
    | some d =>
      rcases h.supertypes_cases hclosed hkeyed d.id with ⟨names, hnames⟩ | hwrong
      · exact .inl ⟨_, by simp only [hnames, ok_bind]; rfl⟩
      · exact .inr (by simp only [hwrong, error_bind])

/-- Only the edges to direct supertypes matter to the supertypes of a node. -/
theorem supertypes_congr {edges : List Edge}
    (h : edges.filter (fun e => e.kind.isSupertype) = g.edges.filter fun e => e.kind.isSupertype)
    (id : Text) : ({ g with edges := edges } : SymbolGraph).supertypes id = g.supertypes id := by
  have hdirect : ({ g with edges := edges } : SymbolGraph).directSupertypeIds =
      g.directSupertypeIds := by
    funext id
    simp only [directSupertypeIds, ← List.filter_filter, h]
  simp only [supertypes, supertypeIds, hdirect]
  rfl

theorem isAssignable_congr {edges : List Edge}
    (h : edges.filter (fun e => e.kind.isSupertype) = g.edges.filter fun e => e.kind.isSupertype)
    (target source : TypeRef) :
    ({ g with edges := edges } : SymbolGraph).isAssignable target source =
      g.isAssignable target source := by
  simp only [isAssignable, supertypes_congr h]
  rfl

/-! ### A preorder -/

theorem ArgumentsFit.trans (hab : ArgumentsFit a b) (hbc : ArgumentsFit b c) : ArgumentsFit a c := by
  rcases hab with hnone | hab
  · exact .inl hnone
  · rcases hbc with hnone | hbc
    · exact .inl (hab.trans hnone)
    · exact .inr (hab.trans hbc)

theorem Assignable.refl (g : SymbolGraph) (a : TypeRef) : g.Assignable a a where
  null := by cases a.nullable <;> simp
  widens := .same rfl (.inr rfl)

/-- The names of types tell them apart. -/
def NamesDistinct (g : SymbolGraph) : Prop := (g.typeDecls.map TypeDecl.qualifiedName).Nodup

/-- No edge leads from `kotlin.Any` to a direct supertype. -/
def AnyTopmost (g : SymbolGraph) : Prop :=
  ∀ t ∈ g.typeDecls, t.qualifiedName = .str Vocabulary.anyType → ∀ other, ¬ g.Extends t.id other

theorem Widens.trans (h : g.WellFormed) (hdistinct : g.NamesDistinct) (htop : g.AnyTopmost)
    (hab : g.Widens a b) (hbc : g.Widens b c) : g.Widens a c := by
  cases hab with
  | any hname => exact .any hname
  | same hname hfit =>
    cases hbc with
    | any hany => exact .any (hname.trans hany)
    | same hname' hfit' => exact .same (hname.trans hname') (hfit.trans hfit')
    | supertype hne hfit' hd ht htarget hpath =>
      exact .supertype (hname ▸ hne) (hfit.trans hfit') hd ht (hname ▸ htarget) hpath
  | @supertype hne hfit d hd t ht htarget hpath =>
    obtain ⟨u, hu, rfl, hsource⟩ := h.exists_of_typeNamed? hd
    cases hbc with
    | any hany =>
      -- nothing can be reached from `kotlin.Any`
      obtain ⟨other, hfirst, -⟩ := TransGen.head'_iff.1 hpath
      exact absurd hfirst (htop u hu (hany ▸ hsource) other)
    | same hname hfit' =>
      exact .supertype (hname ▸ hne) (hfit.trans hfit') (hname ▸ hd) ht htarget hpath
    | @supertype hne' hfit' e he s hs hmiddle hpath' =>
      -- the type in the middle is the same from both sides, since its name is
      obtain rfl : s = u := List.inj_on_of_nodup_map hdistinct hs hu (hmiddle.trans hsource.symm)
      by_cases hname : a.name = c.name
      · exact .same hname (hfit.trans hfit')
      · exact .supertype hname (hfit.trans hfit') he ht htarget (hpath'.trans hpath)

theorem Assignable.trans (h : g.WellFormed) (hdistinct : g.NamesDistinct) (htop : g.AnyTopmost)
    (hab : g.Assignable a b) (hbc : g.Assignable b c) : g.Assignable a c where
  null := by
    rcases hbc.null with hc | hb
    · exact .inl hc
    · rcases hab.null with hb' | ha
      · rw [hb] at hb'
        cases hb'
      · exact .inr ha
  widens := hab.widens.trans h hdistinct htop hbc.widens

end SymbolGraph

/-! ### Types in a circle -/

namespace Sample

/-- Three types that extend each other in a circle. -/
def circle : Value :=
  .obj
    [("nodes", .arr
      [node "a" "TypeDecl" [("name", .str "A")], node "b" "TypeDecl" [("name", .str "B")],
        node "c" "TypeDecl" [("name", .str "C"), ("kind", .str "interface")]]),
      ("edges", .arr
        [edge "a" "b" "INHERITS", edge "b" "c" "IMPLEMENTS", edge "c" "a" "INHERITS"])]

/-- Their graph. -/
def circleGraph : SymbolGraph := graphOf circle

theorem read_circle : Document.read circle = .ok circleGraph := read_graphOf (by decide +kernel)

theorem avoidsReserved_circle : Document.avoidsReserved circle = true := rfl

theorem isText_circle : ∀ t ∈ circleGraph.typeDecls, t.qualifiedName.isText = true := by
  have hall : (circleGraph.typeDecls.all fun t => t.qualifiedName.isText) = true := by
    decide +kernel
  exact List.all_eq_true.1 hall

theorem extends_circle : circleGraph.Extends "a" "b" ∧ circleGraph.Extends "b" "c" ∧
    circleGraph.Extends "c" "a" :=
  ⟨⟨⟨"a", "b", .inherits⟩, by decide +kernel, rfl, rfl, .inl rfl⟩,
    ⟨⟨"b", "c", .implements⟩, by decide +kernel, rfl, rfl, .inr rfl⟩,
    ⟨⟨"c", "a", .inherits⟩, by decide +kernel, rfl, rfl, .inl rfl⟩⟩

/-- A reference to one of the types, with an argument. -/
def circleType (name : Text) (nullable : Bool) : TypeRef :=
  ⟨name, nullable, [⟨"kotlin.String", false, []⟩]⟩

/-- What is further on in the circle may take the place of what is before it. -/
theorem assignable_circle {target source id other : Text} {nullable : Bool}
    (hne : target ≠ source)
    (hsource : (circleGraph.typeNamed? (.str source)).map Declaration.id = some id)
    (htarget : (circleGraph.typeNamed? (.str target)).map Declaration.id = some other)
    (hpath : Relation.TransGen circleGraph.Extends id other) :
    circleGraph.Assignable (circleType target nullable) (circleType source false) := by
  have hwf := (Document.read_wellFormed read_circle avoidsReserved_circle).1
  exact ⟨.inl rfl, hwf.widens_of_transGen hne (.inr rfl) hsource htarget hpath⟩

end Sample

namespace Document

variable {g : SymbolGraph} {v : Value}

/-- **Assignability is a relation on the graph of a document.** The check always answers, whether or
not the types extend each other in a circle. The answer is yes if null is among the values of the
target or not among those of the source, and the target is `kotlin.Any`, or fits in its arguments and
has the name of the source or of a type on a path of supertypes from the type of the source. Edges of
other kinds could be added or taken away. -/
theorem isAssignable_of_read (h : read v = .ok g) (havoids : avoidsReserved v = true)
    (hnames : ∀ t ∈ g.typeDecls, t.qualifiedName.isText = true) (target source : TypeRef) :
    (∃ answer, g.isAssignable target source = .ok answer ∧
      (answer = true ↔ g.Assignable target source)) ∧
    ∀ edges : List Edge,
      edges.filter (fun e => e.kind.isSupertype) = g.edges.filter (fun e => e.kind.isSupertype) →
      ({ g with edges := edges } : SymbolGraph).isAssignable target source =
        g.isAssignable target source :=
  ⟨(read_wellFormed h havoids).1.isAssignable_eq hnames target source,
    fun _ hedges => SymbolGraph.isAssignable_congr hedges target source⟩

/-- In the circle a type may stand for the one two steps further on, with the same arguments, but not
if null is among its values and not among those of the other. -/
theorem isAssignable_circle : read Sample.circle = .ok Sample.circleGraph ∧
    avoidsReserved Sample.circle = true ∧
    (∀ t ∈ Sample.circleGraph.typeDecls, t.qualifiedName.isText = true) ∧
    Sample.circleGraph.isAssignable (Sample.circleType "A" true) (Sample.circleType "B" false) =
      .ok true ∧
    Sample.circleGraph.isAssignable (Sample.circleType "A" false) (Sample.circleType "B" true) =
      .ok false := by
  refine ⟨Sample.read_circle, Sample.avoidsReserved_circle, Sample.isText_circle, ?_, ?_⟩
  · obtain ⟨⟨answer, hanswer, hiff⟩, -⟩ := isAssignable_of_read Sample.read_circle
      Sample.avoidsReserved_circle Sample.isText_circle (Sample.circleType "A" true)
      (Sample.circleType "B" false)
    have hpath := Relation.TransGen.tail (.single Sample.extends_circle.2.1) Sample.extends_circle.2.2
    rw [hanswer, hiff.2 (Sample.assignable_circle (by decide) (by decide +kernel)
      (by decide +kernel) hpath)]
  · obtain ⟨⟨answer, hanswer, hiff⟩, -⟩ := isAssignable_of_read Sample.read_circle
      Sample.avoidsReserved_circle Sample.isText_circle (Sample.circleType "A" false)
      (Sample.circleType "B" true)
    have hnot : ¬ Sample.circleGraph.Assignable (Sample.circleType "A" false)
        (Sample.circleType "B" true) := fun h => by
      rcases h.null with hnone | hnone <;> cases hnone
    rw [hanswer, Bool.eq_false_iff.2 fun htrue => hnot (hiff.1 htrue)]

/-- **Assignability is a preorder.** Every type may stand for itself; and where names tell types
apart and nothing stands above `kotlin.Any`, what may stand for a type may stand for all that the
type may stand for. -/
theorem isAssignable_preorder (h : read v = .ok g) (havoids : avoidsReserved v = true)
    (hnames : ∀ t ∈ g.typeDecls, t.qualifiedName.isText = true) (hdistinct : g.NamesDistinct)
    (htop : g.AnyTopmost) :
    (∀ a, g.isAssignable a a = .ok true) ∧
    ∀ a b c, g.isAssignable a b = .ok true → g.isAssignable b c = .ok true →
      g.isAssignable a c = .ok true := by
  have hwf := (read_wellFormed h havoids).1
  constructor
  · intro a
    exact (hwf.isAssignable_iff hnames).2 (.refl g a)
  · intro a b c hab hbc
    rw [hwf.isAssignable_iff hnames] at hab hbc ⊢
    exact hab.trans hwf hdistinct htop hbc

/-- One step of the circle after another. -/
theorem isAssignable_circle_trans : Sample.circleGraph.NamesDistinct ∧
    Sample.circleGraph.AnyTopmost ∧
    Sample.circleGraph.isAssignable (Sample.circleType "A" true) (Sample.circleType "C" false) =
      .ok true ∧
    Sample.circleGraph.isAssignable (Sample.circleType "C" false) (Sample.circleType "B" false) =
      .ok true ∧
    Sample.circleGraph.isAssignable (Sample.circleType "A" true) (Sample.circleType "B" false) =
      .ok true := by
  have hwf := (read_wellFormed Sample.read_circle Sample.avoidsReserved_circle).1
  have hkeys : ((Sample.circleGraph.typeDecls.map TypeDecl.qualifiedName).map Value.key?).Nodup := by
    decide +kernel
  have hdistinct : Sample.circleGraph.NamesDistinct := hkeys.of_map Value.key?
  have hnone : (Sample.circleGraph.typeDecls.all fun t =>
      t.qualifiedName.key? != some (.str Vocabulary.anyType) ||
        (Sample.circleGraph.directSupertypeIds t.id).isEmpty) = true := by decide +kernel
  have htop : Sample.circleGraph.AnyTopmost := by
    intro t ht hname other hextends
    have hempty := List.all_eq_true.1 hnone t ht
    simp only [hname, Value.key?_str, bne_self_eq_false, Bool.false_or, List.isEmpty_iff] at hempty
    have hmem := SymbolGraph.mem_directSupertypeIds_iff.2 hextends
    rw [hempty] at hmem
    cases hmem
  have hca : Sample.circleGraph.isAssignable (Sample.circleType "A" true)
      (Sample.circleType "C" false) = .ok true :=
    (hwf.isAssignable_iff Sample.isText_circle).2 (Sample.assignable_circle (by decide)
      (by decide +kernel) (by decide +kernel) (.single Sample.extends_circle.2.2))
  have hbc : Sample.circleGraph.isAssignable (Sample.circleType "C" false)
      (Sample.circleType "B" false) = .ok true :=
    (hwf.isAssignable_iff Sample.isText_circle).2 (Sample.assignable_circle (by decide)
      (by decide +kernel) (by decide +kernel) (.single Sample.extends_circle.2.1))
  obtain ⟨-, htrans⟩ := isAssignable_preorder Sample.read_circle Sample.avoidsReserved_circle
    Sample.isText_circle hdistinct htop
  exact ⟨hdistinct, htop, hca, hbc, htrans _ _ _ hca hbc⟩

end Document

end KotlinPreferences
