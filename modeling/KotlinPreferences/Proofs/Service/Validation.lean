import KotlinPreferences.Proofs.Holder.Consistency
import KotlinPreferences.Proofs.Service.Shown

/-!
# What a validation finds

The validation of a document goes through the same holders as a pass does, and asks the same of each
of their preferences. What it finds about a preference is shown, so it has to be Unicode text.

* `verdictOn_cases`: what is found about a property, once its validation returns;
* `verdictsOn_cases`, `validates_of_verdictsOn`: the same for the properties of one holder;
* `validateAll_eq`, `validateAll_cases`: the same for a run over some holders, and when it returns;
* `ShownByValidation`, `validateBody_error_cases`: what the answer to a validation shows, and why there
  is none.
-/

namespace KotlinPreferences

namespace Service

open Holder

variable {g : SymbolGraph} {holder : TypeDecl} {property : Declaration}
  {properties : List Declaration} {failure : Failure}

/-! ### One holder -/

/-- The values that an answer shows of a preference with a verdict. -/
def shownOf (holder : TypeDecl) (p : Preference) (verdict : Verdict) : List Value :=
  holder.qualifiedName :: .str p.name :: verdict.error?.toList.map .str

/-- What is found about a preference of a holder that can be named. -/
def resultOn (holder : TypeDecl) (p : Preference) (verdict : Verdict) : PropertyVerdict :=
  ⟨holder.qualifiedName.text, p.name, verdict.error?⟩

theorem verdictOn_of_none (hresolves : g.resolves property = .ok true)
    (hp : preferenceOf? holder property = none) : verdictOn g holder property = .ok none := by
  rw [verdictOn, of?_eq_preferenceOf? hresolves, hp]
  rfl

theorem verdictOn_of_some (hresolves : g.resolves property = .ok true) {p : Preference}
    (hp : preferenceOf? holder property = some p) :
    verdictOn g holder property = p.validate g >>= fun verdict =>
      nameText holder.qualifiedName >>= fun name => textFits p.name >>= fun property =>
        verdict.error?.mapM textFits >>= fun error => .ok (some ⟨name, property, error⟩) := by
  rw [verdictOn, of?_eq_preferenceOf? hresolves, hp]
  rfl

/-- A preference whose validation returns has a result, or something about it cannot be shown. -/
theorem verdictOn_cases (hresolves : g.resolves property = .ok true) {p : Preference}
    (hp : preferenceOf? holder property = some p) {verdict : Verdict}
    (hverdict : p.validate g = .ok verdict) :
    (verdictOn g holder property = .ok (some (resultOn holder p verdict)) ∧
        ∀ v ∈ shownOf holder p verdict, v.isUnicodeText = true) ∨
      (verdictOn g holder property = .error .unusableResponse ∧
        ∃ v ∈ shownOf holder p verdict, v.isUnicodeText = false) := by
  rw [verdictOn_of_some hresolves hp, hverdict, ok_bind, resultOn, shownOf]
  rcases nameText_cases holder.qualifiedName with ⟨name, hname, hunicode, hfits⟩ | ⟨hunicode, hfits⟩
  · rw [hfits, ok_bind, hname]
    rcases textFits_cases p.name with ⟨hproperty, hfits⟩ | ⟨hproperty, hfits⟩
    · rw [hfits, ok_bind]
      cases verdict.error? with
      | none => exact .inl ⟨rfl, by simp [Value.isUnicodeText, hunicode, hproperty]⟩
      | some error =>
        rcases textFits_cases error with ⟨herror, hfits⟩ | ⟨herror, hfits⟩
        · refine .inl ⟨?_, by simp [Value.isUnicodeText, hunicode, hproperty, herror]⟩
          rw [Option.mapM_some, hfits]
          rfl
        · refine .inr ⟨?_, .str error, by simp, herror⟩
          rw [Option.mapM_some, hfits]
          rfl
    · exact .inr ⟨by rw [hfits]; rfl, .str p.name, by simp, hproperty⟩
  · exact .inr ⟨by rw [hfits]; rfl, holder.qualifiedName, by simp, hunicode⟩

/-- What is found about a property, whether it is a preference or not. -/
theorem verdictOn_property_cases (hresolves : g.resolves property = .ok true)
    {verdict : Preference → Verdict}
    (hverdict : ∀ p, preferenceOf? holder property = some p → p.validate g = .ok (verdict p)) :
    (verdictOn g holder property =
          .ok ((preferenceOf? holder property).map fun p => resultOn holder p (verdict p)) ∧
        ∀ p, preferenceOf? holder property = some p →
          ∀ v ∈ shownOf holder p (verdict p), v.isUnicodeText = true) ∨
      (verdictOn g holder property = .error .unusableResponse ∧
        ∃ p, preferenceOf? holder property = some p ∧
          ∃ v ∈ shownOf holder p (verdict p), v.isUnicodeText = false) := by
  cases hp : preferenceOf? holder property with
  | none => exact .inl ⟨verdictOn_of_none hresolves hp, by simp⟩
  | some p =>
    refine (verdictOn_cases hresolves hp (hverdict p hp)).imp ?_ ?_
    · rintro ⟨hok, hshown⟩
      exact ⟨hok, fun q hq => Option.some.inj hq ▸ hshown⟩
    · rintro ⟨herror, hshown⟩
      exact ⟨herror, p, rfl, hshown⟩

/-- What is found about a consistent holder is what the validations of its preferences say, unless
something about one of them cannot be shown. -/
theorem verdictsOn_cases (hproperties : g.properties holder.id = .ok properties)
    (hresolves : ∀ property ∈ properties, g.resolves property = .ok true)
    {verdict : Preference → Verdict}
    (hverdict : ∀ p ∈ preferences holder properties, p.validate g = .ok (verdict p)) :
    (verdictsOn g holder =
          .ok ((preferences holder properties).map fun p => resultOn holder p (verdict p)) ∧
        ∀ p ∈ preferences holder properties, ∀ v ∈ shownOf holder p (verdict p),
          v.isUnicodeText = true) ∨
      (verdictsOn g holder = .error .unusableResponse ∧
        ∃ p ∈ preferences holder properties, ∃ v ∈ shownOf holder p (verdict p),
          v.isUnicodeText = false) := by
  have hcases := fun property (hproperty : property ∈ properties) =>
    verdictOn_property_cases (hresolves property hproperty)
      fun p hp => hverdict p (List.mem_filterMap.2 ⟨property, hproperty, hp⟩)
  rw [verdictsOn, hproperties, ok_bind]
  cases hfound : properties.mapM (verdictOn g holder) with
  | error failure =>
    obtain ⟨property, hproperty, hfails⟩ := exists_of_mapM_error hfound
    rcases hcases property hproperty with ⟨hok, -⟩ | ⟨herror, p, hp, hshown⟩
    · rw [hok] at hfails
      cases hfails
    · rw [herror] at hfails
      cases hfails
      exact .inr ⟨rfl, p, List.mem_filterMap.2 ⟨property, hproperty, hp⟩, hshown⟩
  | ok found =>
    -- each property has a result, so everything about it can be shown
    have hresult : ∀ property ∈ properties, verdictOn g holder property =
        .ok ((preferenceOf? holder property).map fun p => resultOn holder p (verdict p)) ∧
          ∀ p, preferenceOf? holder property = some p →
            ∀ v ∈ shownOf holder p (verdict p), v.isUnicodeText = true := by
      intro property hproperty
      rcases hcases property hproperty with hok | ⟨herror, -⟩
      · exact hok
      · obtain ⟨other, hother⟩ := exists_of_mapM hfound hproperty
        rw [herror] at hother
        cases hother
    rw [mapM_eq_map fun property hproperty => (hresult property hproperty).1,
      Except.ok.injEq] at hfound
    refine .inl ⟨?_, fun p hp => ?_⟩
    · rw [ok_bind, pure_eq_ok, ← hfound, List.filterMap_map, preferences, List.map_filterMap]
      rfl
    · obtain ⟨property, hproperty, hof⟩ := List.mem_filterMap.1 hp
      exact (hresult property hproperty).2 p hof

/-- Where the validation of a consistent holder returns, that of each preference does. -/
theorem validates_of_verdictsOn (hconsistent : g.isConsistent holder.id = .ok true)
    {found : List PropertyVerdict} (h : verdictsOn g holder = .ok found) : Validates g holder := by
  obtain ⟨properties, hproperties, hresolves⟩ := properties_of_isConsistent hconsistent
  rw [verdictsOn, hproperties, ok_bind, bind_eq_ok_iff] at h
  obtain ⟨verdicts, hverdicts, -⟩ := h
  intro others hothers p hp
  rw [hproperties, Except.ok.injEq] at hothers
  subst hothers
  obtain ⟨property, hproperty, hof⟩ := List.mem_filterMap.1 hp
  obtain ⟨found, hfound⟩ := exists_of_mapM hverdicts hproperty
  rw [verdictOn_of_some (hresolves property hproperty) hof, bind_eq_ok_iff] at hfound
  obtain ⟨verdict, hverdict, -⟩ := hfound
  exact ⟨verdict, hverdict⟩

/-! ### All holders -/

/-- A run over some holders puts what is found about each ready interface one after another, and
defers the holders that are not ready. -/
theorem validateAll_eq {holders : List TypeDecl} {found : TypeDecl → List PropertyVerdict}
    (hconsistent : ∀ holder ∈ holders, g.isConsistent holder.id = .ok (g.isReady holder))
    (hfound : ∀ holder ∈ g.readyInterfaces holders, verdictsOn g holder = .ok (found holder)) :
    validateAll g holders = .ok ((g.readyInterfaces holders).flatMap found,
      holders.filter fun holder => !g.isReady holder) := by
  induction holders with
  | nil => rfl
  | cons holder rest ih =>
    obtain ⟨hholder, hrest⟩ := List.forall_mem_cons.1 hconsistent
    have ih := ih hrest fun other hother =>
      hfound other (by
        rw [SymbolGraph.readyInterfaces, List.filter_cons]
        split
        · exact List.mem_cons_of_mem _ hother
        · exact hother)
    rw [validateAll, hholder, ok_bind]
    cases hready : g.isReady holder with
    | false => simp [ih, hready, SymbolGraph.readyInterfaces]
    | true =>
      by_cases hkind : holder.kind = .interface
      · have hmem : holder ∈ g.readyInterfaces (holder :: rest) := by
          simp [SymbolGraph.readyInterfaces, hready, hkind]
        simp [ih, hfound holder hmem, hready, hkind, SymbolGraph.readyInterfaces]
      · simp [ih, hready, hkind, SymbolGraph.readyInterfaces]

/-- A run over some holders returns only where all that it looks into does. -/
theorem validateAll_cases {holders : List TypeDecl}
    {found : List PropertyVerdict × List TypeDecl} (h : validateAll g holders = .ok found) :
    (∀ holder ∈ holders, g.isConsistent holder.id = .ok (g.isReady holder)) ∧
      ∀ holder ∈ g.readyInterfaces holders, ∃ found, verdictsOn g holder = .ok found := by
  induction holders generalizing found with
  | nil => simp [SymbolGraph.readyInterfaces]
  | cons holder rest ih =>
    rw [validateAll, bind_eq_ok_iff] at h
    obtain ⟨ready, hconsistent, h⟩ := h
    have hready : g.isReady holder = ready := by rw [SymbolGraph.isReady, hconsistent]
    rw [← hready] at hconsistent
    cases ready with
    | false =>
      simp only [Bool.false_eq_true, if_false, bind_eq_ok_iff] at h
      obtain ⟨further, hfurther, -⟩ := h
      obtain ⟨hrest, hverdicts⟩ := ih hfurther
      refine ⟨List.forall_mem_cons.2 ⟨hconsistent, hrest⟩, ?_⟩
      simpa [SymbolGraph.readyInterfaces, hready] using hverdicts
    | true =>
      rw [if_pos rfl] at h
      by_cases hkind : holder.kind = .interface
      · rw [if_pos hkind] at h
        simp only [bind_eq_ok_iff] at h
        obtain ⟨own, hown, further, hfurther, -⟩ := h
        obtain ⟨hrest, hverdicts⟩ := ih hfurther
        refine ⟨List.forall_mem_cons.2 ⟨hconsistent, hrest⟩, ?_⟩
        rw [SymbolGraph.readyInterfaces, List.filter_cons_of_pos (by simp [hready, hkind])]
        exact List.forall_mem_cons.2 ⟨⟨own, hown⟩, hverdicts⟩
      · rw [if_neg hkind] at h
        simp only [bind_eq_ok_iff] at h
        obtain ⟨-, -, further, hfurther, -⟩ := h
        obtain ⟨hrest, hverdicts⟩ := ih hfurther
        refine ⟨List.forall_mem_cons.2 ⟨hconsistent, hrest⟩, ?_⟩
        rw [SymbolGraph.readyInterfaces, List.filter_cons_of_neg (by simp [hkind])]
        exact hverdicts

/-! ### The answer to a validation -/

/-- The values that the answer to a validation shows: the names of the deferred holders, and what is
found about the preferences of the others. -/
inductive ShownByValidation (g : SymbolGraph) : Value → Prop
  | deferred {holder : TypeDecl} (hmem : holder ∈ g.holders) (hready : g.isReady holder = false) :
      ShownByValidation g holder.qualifiedName
  | result {holder : TypeDecl} {p : Preference} {verdict : Verdict} {v : Value}
      (hholder : holder ∈ g.readyInterfaces g.holders)
      (hp : p ∈ preferences holder (g.targetsOf holder.id .hasProperty))
      (hverdict : p.validate g = .ok verdict) (hv : v ∈ shownOf holder p verdict) :
      ShownByValidation g v

/-- The validation of a consistent holder ends where that of one of its preferences does, or at what
cannot be shown of it. -/
theorem verdictsOn_error_cases (hsound : g.Sound)
    (hconsistent : g.isConsistent holder.id = .ok true) (h : verdictsOn g holder = .error failure) :
    ∃ p ∈ preferences holder (g.targetsOf holder.id .hasProperty),
      p.validate g = .error failure ∨
        failure = .unusableResponse ∧ ∃ verdict, p.validate g = .ok verdict ∧
          ∃ v ∈ shownOf holder p verdict, v.isUnicodeText = false := by
  obtain ⟨properties, hproperties, hresolves⟩ := properties_of_isConsistent hconsistent
  have htargets := hsound.properties_eq holder.id
  rw [hproperties, Except.ok.injEq] at htargets
  rw [← htargets]
  rw [verdictsOn, hproperties, ok_bind, bind_eq_error_iff] at h
  rcases h with hfails | ⟨verdicts, -, hpure⟩
  · obtain ⟨property, hproperty, hfails⟩ := exists_of_mapM_error hfails
    cases hp : preferenceOf? holder property with
    | none =>
      rw [verdictOn_of_none (hresolves property hproperty) hp] at hfails
      cases hfails
    | some p =>
      refine ⟨p, List.mem_filterMap.2 ⟨property, hproperty, hp⟩, ?_⟩
      cases hverdict : p.validate g with
      | error failure' =>
        rw [verdictOn_of_some (hresolves property hproperty) hp, hverdict] at hfails
        cases hfails
        exact .inl rfl
      | ok verdict =>
        rcases verdictOn_cases (hresolves property hproperty) hp hverdict with
          ⟨hok, -⟩ | ⟨herror, hshown⟩
        · rw [hok] at hfails
          cases hfails
        · rw [herror] at hfails
          cases hfails
          exact .inr ⟨rfl, verdict, rfl, hshown⟩
  · cases hpure

/-- A run over some holders ends where the validation of one of them does. -/
theorem exists_of_validateAll_error {holders : List TypeDecl} (hsound : g.Sound)
    (h : validateAll g holders = .error failure) :
    ∃ holder ∈ g.readyInterfaces holders, verdictsOn g holder = .error failure := by
  induction holders with
  | nil => cases h
  | cons holder rest ih =>
    have hrest : validateAll g rest = .error failure →
        ∃ other ∈ g.readyInterfaces (holder :: rest), verdictsOn g other = .error failure := by
      intro h
      obtain ⟨other, hother, hfails⟩ := ih h
      obtain ⟨hmem, hready⟩ := SymbolGraph.mem_readyInterfaces.1 hother
      exact ⟨other, SymbolGraph.mem_readyInterfaces.2 ⟨List.mem_cons_of_mem _ hmem, hready⟩, hfails⟩
    obtain ⟨ready, hready⟩ := hsound.isConsistent_total holder.id
    rw [validateAll, hready, ok_bind] at h
    cases ready with
    | false =>
      rcases bind_eq_error_iff.1 h with hfails | ⟨found, -, hpure⟩
      · exact hrest hfails
      · cases hpure
    | true =>
      rw [if_pos rfl] at h
      by_cases hkind : holder.kind = .interface
      · rw [if_pos hkind] at h
        rcases bind_eq_error_iff.1 h with hfails | ⟨own, -, h⟩
        · have hmem : holder ∈ g.readyInterfaces (holder :: rest) :=
            SymbolGraph.mem_readyInterfaces.2
              ⟨List.mem_cons_self, SymbolGraph.isReady_iff.2 hready, hkind⟩
          exact ⟨holder, hmem, hfails⟩
        · rcases bind_eq_error_iff.1 h with hfails | ⟨found, -, hpure⟩
          · exact hrest hfails
          · cases hpure
      · rw [if_neg hkind, pure_eq_ok, ok_bind] at h
        rcases bind_eq_error_iff.1 h with hfails | ⟨found, -, hpure⟩
        · exact hrest hfails
        · cases hpure

/-- There is no answer to a validation where the validation of a preference fails, or at a value that
the answer has to show. -/
theorem validateBody_error_cases (hsound : g.Sound) (h : validateBody g = .error failure) :
    (∃ holder ∈ g.readyInterfaces g.holders,
        ∃ p ∈ preferences holder (g.targetsOf holder.id .hasProperty),
          p.validate g = .error failure) ∨
      failure = .unusableResponse ∧ ∃ v, ShownByValidation g v ∧ v.isUnicodeText = false := by
  rw [validateBody, bind_eq_error_iff] at h
  rcases h with hfails | ⟨⟨results, deferred⟩, hall, h⟩
  · obtain ⟨holder, hholder, hfails⟩ := exists_of_validateAll_error hsound hfails
    obtain ⟨-, hready, -⟩ := SymbolGraph.mem_readyInterfaces.1 hholder
    obtain ⟨p, hp, hvalidate | ⟨hfailure, verdict, hverdict, v, hv, hunicode⟩⟩ :=
      verdictsOn_error_cases hsound (SymbolGraph.isReady_iff.1 hready) hfails
    · exact .inl ⟨holder, hholder, p, hp, hvalidate⟩
    · exact .inr ⟨hfailure, v, .result hholder hp hverdict hv, hunicode⟩
  · rcases deferredNames_cases deferred with ⟨names, hnames⟩ | ⟨hfails, holder, hholder, hunicode⟩
    · simp only [hnames, ok_bind] at h
      cases h
    · simp only [hfails, error_bind] at h
      cases h
      -- what the run has deferred is not ready
      obtain ⟨hconsistent, hverdicts⟩ := validateAll_cases hall
      obtain ⟨found, hfound⟩ := exists_results hverdicts
      have hdeferred := validateAll_eq hconsistent hfound
      rw [hall, Except.ok.injEq, Prod.mk.injEq] at hdeferred
      rw [hdeferred.2] at hholder
      obtain ⟨hmem, hready⟩ := List.mem_filter.1 hholder
      exact .inr ⟨rfl, _, .deferred hmem (by simpa using hready), hunicode⟩

/-- What an answer to a validation shows are Unicode texts. -/
theorem isUnicode_of_validateBody (hsound : g.Sound) {answer : ValidateBody}
    (h : validateBody g = .ok answer) : ∀ v, ShownByValidation g v → v.isUnicodeText = true := by
  simp only [validateBody, bind_eq_ok_iff] at h
  obtain ⟨⟨results, deferred⟩, hall, names, hnames, -⟩ := h
  obtain ⟨hconsistent, hverdicts⟩ := validateAll_cases hall
  obtain ⟨found, hfound⟩ := exists_results hverdicts
  rw [validateAll_eq hconsistent hfound, Except.ok.injEq, Prod.mk.injEq] at hall
  rintro _ (⟨hmem, hready⟩ | ⟨hholder, hp, hverdict, hv⟩)
  · refine isUnicode_of_deferredNames hnames ?_
    rw [← hall.2]
    exact List.mem_filter.2 ⟨hmem, by simp [hready]⟩
  · rename_i holder p verdict
    obtain ⟨-, hready, -⟩ := SymbolGraph.mem_readyInterfaces.1 hholder
    have hreturns := hfound holder hholder
    obtain ⟨properties, hproperties, hresolves⟩ :=
      properties_of_isConsistent (SymbolGraph.isReady_iff.1 hready)
    have htargets := hsound.properties_eq holder.id
    rw [hproperties, Except.ok.injEq] at htargets
    subst htargets
    have hvalidates := validates_of_verdictsOn (SymbolGraph.isReady_iff.1 hready) hreturns
    have : Nonempty Verdict := ⟨.valid⟩
    obtain ⟨verdicts, hall⟩ := exists_results (hvalidates _ hproperties)
    rcases verdictsOn_cases hproperties hresolves hall with ⟨-, hshown⟩ | ⟨hfails, -⟩
    · have hsame := hall p hp
      rw [hverdict, Except.ok.injEq] at hsame
      exact hshown p hp _ (hsame ▸ hv)
    · rw [hfails] at hreturns
      cases hreturns

/-- So the faults that were found can be shown as well. -/
theorem isUnicode_of_fault {p : Preference} {d : Diagnostic}
    (hshown : ∀ verdict, p.validate g = .ok verdict → ∀ v ∈ shownOf holder p verdict,
      v.isUnicodeText = true)
    (hd : faultOf? g holder p = some d) : ∀ v ∈ shownValues d, v.isUnicodeText = true := by
  unfold faultOf? at hd
  split at hd
  · rename_i verdict hverdict
    obtain ⟨error, herror, rfl⟩ := Option.map_eq_some_iff.1 hd
    have hshown := hshown verdict hverdict
    rw [shownOf, herror, List.forall_mem_cons, List.forall_mem_cons] at hshown
    obtain ⟨hname, hproperty, herror⟩ := hshown
    have hsymbol : (holder.qualifiedName.text ++ "." ++ p.name).isUnicode = true := by
      rw [Text.isUnicode_append, Text.isUnicode_append, Value.isUnicode_text_of_isUnicodeText hname,
        Text.isUnicode_ofString]
      exact hproperty
    exact List.forall_mem_cons.2 ⟨herror _ (by simp), List.forall_mem_singleton.2 hsymbol⟩
  · cases hd

end Service

end KotlinPreferences
