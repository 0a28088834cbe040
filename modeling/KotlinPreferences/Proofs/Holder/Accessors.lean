import KotlinPreferences.Proofs.Holder.Preferences

/-!
# The variables of a class

One property contributes a variable, a report, both, nothing or a failure, as its validation and the
policy say. From this step the variables of a class follow by induction over its properties.

* `Holder.fault?`, `Holder.reported`, `Holder.kept`: the reports and the variables of a class, said
  without a run over its properties;
* `Holder.step_cases`: everything that a property can contribute;
* `Holder.Judged`: the properties of a consistent holder, with verdicts and variables;
* `Holder.accessors_eq`: what all properties contribute, once all validations return;
* `Holder.faultOf?_of_accessors`: every report is the fault of a preference;
* `Holder.accessors_eq_none`, `Holder.validate_of_accessors`: what is known where they may not;
* `Holder.accessors_error_cases`, `Holder.diagnostics_of_accessors`: what was examined and reported
  before a failure, and where there is none.
-/

namespace KotlinPreferences

namespace Holder

variable {g : SymbolGraph} {options : Options} {holder : TypeDecl} {property : Declaration}
  {properties : List Declaration} {p : Preference} {verdict : Preference → Verdict}
  {block : Preference → Text}

/-! ### Reports and variables -/

/-- The report of a preference that failed its validation. -/
def fault? (holder : TypeDecl) (p : Preference) (verdict : Verdict) : Option Diagnostic :=
  verdict.error?.map fun error =>
    ⟨.error, error, .str (holder.qualifiedName.text ++ "." ++ p.name)⟩

/-- Whether a preference passed its validation. -/
def isValid (verdict : Verdict) : Bool := verdict.error?.isNone

/-- The reports that a policy lets through: where a fault ends the class, only the first. -/
def reported {α : Type} (policy : Policy) (faults : List α) : List α :=
  match policy with
  | .omitted => faults
  | .emitted => faults
  | .aborted => faults.take 1

/-- The preferences that become variables, unless the class is left out. -/
def kept (policy : Policy) (verdict : Preference → Verdict) (ps : List Preference) :
    Option (List Preference) :=
  match policy with
  | .omitted => some (ps.filter fun p => isValid (verdict p))
  | .emitted => some ps
  | .aborted => if ps.all fun p => isValid (verdict p) then some ps else none

/-- A report of an invalid preference: an error about a symbol that is a text. -/
def IsFault (d : Diagnostic) : Prop := d.severity = .error ∧ d.symbol.isText = true

theorem isFault_of_fault? {v : Verdict} {d : Diagnostic} (h : fault? holder p v = some d) :
    IsFault d := by
  obtain ⟨error, -, rfl⟩ := Option.map_eq_some_iff.1 h
  exact ⟨rfl, rfl⟩

theorem filterMap_fault?_eq_nil_iff {ps : List Preference} :
    (ps.filterMap fun p => fault? holder p (verdict p)) = [] ↔
      ∀ p ∈ ps, isValid (verdict p) = true := by
  simp [List.filterMap_eq_nil_iff, fault?, isValid]

/-! ### One property -/

/-- What a preference contributes, given its variable. -/
def outcome (policy : Policy) (verdict : Verdict) (text : Text) : Step :=
  if isValid verdict then .accessor text
  else
    match policy with
    | .omitted => .skip
    | .emitted => .accessor text
    | .aborted => .stop

theorem text_of_outcome {policy : Policy} {v : Verdict} {text other : Text}
    (h : outcome policy v text = .accessor other) : other = text := by
  unfold outcome at h
  split at h
  · cases h
    rfl
  · cases policy <;> cases h
    rfl

/-- Only one policy ends a class. -/
theorem policy_of_outcome {policy : Policy} {v : Verdict} {text : Text}
    (h : outcome policy v text = .stop) : policy = .aborted := by
  unfold outcome at h
  split at h
  · cases h
  · cases policy with
    | omitted => cases h
    | emitted => cases h
    | aborted => rfl

/-- A preference that passed its validation contributes its variable and no report; a fault is
reported, and the policy says what else becomes of it. -/
theorem outcome_cases (policy : Policy) (holder : TypeDecl) (p : Preference) (v : Verdict)
    (text : Text) :
    (fault? holder p v = none ∧ outcome policy v text = .accessor text) ∨
    ∃ d, fault? holder p v = some d ∧
      ((policy = .aborted ∧ outcome policy v text = .stop) ∨
        (policy ≠ .aborted ∧
          (outcome policy v text = .skip ∨ outcome policy v text = .accessor text))) := by
  cases herror : v.error? with
  | none => exact .inl ⟨by simp [fault?, herror], by simp [outcome, isValid, herror]⟩
  | some error =>
    refine .inr ⟨_, by rw [fault?, herror]; rfl, ?_⟩
    cases policy with
    | omitted => exact .inr ⟨by simp, .inl (by simp [outcome, isValid, herror])⟩
    | emitted => exact .inr ⟨by simp, .inr (by simp [outcome, isValid, herror])⟩
    | aborted => exact .inl ⟨rfl, by simp [outcome, isValid, herror]⟩

/-- A preference with a verdict and a variable contributes these two as the policy says. -/
theorem preferenceStep_eq (h : Resolved g holder p) {v : Verdict} (hv : p.validate g = .ok v)
    {text : Text} (htext : accessor g options p = .ok text) :
    preferenceStep g options p =
      ⟨(fault? holder p v).toList, .ok (outcome options.policy v text)⟩ := by
  have hvariable : variableStep g options p = ⟨[], .ok (.accessor text)⟩ := by
    simp [variableStep, Report.ofResult, Report.bind_def, htext]
  simp only [preferenceStep, Report.ofResult, Report.bind_def, hv, hvariable]
  cases herror : v.error? with
  | none => simp [fault?, outcome, isValid, herror]
  | some error =>
    simp only [invalidStep, Report.ofResult, Report.tell, Report.bind_def, h.qualifiedName, fault?,
      outcome, isValid, herror]
    cases options.policy <;> simp [hvariable]

/-- Everything that a property of a consistent holder can contribute: nothing where it is no
preference, the failure of its validation, or what its verdict says. -/
theorem step_cases (hsound : g.Sound) (hresolves : g.resolves property = .ok true)
    (options : Options) (holder : TypeDecl) :
    (preferenceOf? holder property = none ∧ step g options holder property = ⟨[], .ok .skip⟩) ∨
    ∃ p, preferenceOf? holder property = some p ∧
      ((∃ failure, p.validate g = .error failure ∧
        step g options holder property = ⟨[], .error failure⟩) ∨
      ∃ v text, p.validate g = .ok v ∧ accessor g options p = .ok text ∧
        step g options holder property =
          ⟨(fault? holder p v).toList, .ok (outcome options.policy v text)⟩) := by
  have hof := of?_eq_preferenceOf? hresolves holder
  cases hp : preferenceOf? holder property with
  | none => exact .inl ⟨rfl, by simp [step, Report.ofResult, Report.bind_def, hof, hp]⟩
  | some p =>
    have hstep : step g options holder property = preferenceStep g options p := by
      simp [step, Report.ofResult, Report.bind_def, hof, hp]
    have hresolved := resolved_of_preferenceOf? hresolves hp
    refine .inr ⟨p, rfl, ?_⟩
    rw [hstep]
    cases hv : p.validate g with
    | error failure =>
      exact .inl ⟨failure, rfl, by simp [preferenceStep, Report.ofResult, Report.bind_def, hv]⟩
    | ok v =>
      obtain ⟨text, htext⟩ := accessor_total hresolved hsound hv options
      exact .inr ⟨v, text, rfl, htext, preferenceStep_eq hresolved hv htext⟩

/-! ### All properties -/

section Cons

variable {rest : List Declaration} {ds : List Diagnostic}

theorem accessors_of_error {failure : Failure}
    (h : step g options holder property = ⟨ds, .error failure⟩) :
    accessors g options holder (property :: rest) = ⟨ds, .error failure⟩ := by
  simp [accessors, Report.bind_def, h]

theorem accessors_of_skip (h : step g options holder property = ⟨ds, .ok .skip⟩) :
    accessors g options holder (property :: rest) =
      ⟨ds ++ (accessors g options holder rest).diagnostics,
        (accessors g options holder rest).result⟩ := by
  simp [accessors, Report.bind_def, h]

theorem accessors_of_stop (h : step g options holder property = ⟨ds, .ok .stop⟩) :
    accessors g options holder (property :: rest) = ⟨ds, .ok none⟩ := by
  simp [accessors, Report.bind_def, h]

theorem accessors_of_accessor {text : Text}
    (h : step g options holder property = ⟨ds, .ok (.accessor text)⟩) :
    accessors g options holder (property :: rest) =
      ⟨ds ++ (accessors g options holder rest).diagnostics,
        (accessors g options holder rest).result.map (Option.map (text :: ·))⟩ := by
  simp only [accessors, Report.bind_def, h]
  cases (accessors g options holder rest).result <;> simp [Except.map]

end Cons

/-- The first preference is kept, left out, or ends the class, as its contribution says. -/
theorem kept_cons (policy : Policy) (verdict : Preference → Verdict) (p : Preference)
    (ps : List Preference) (text : Text) :
    kept policy verdict (p :: ps) =
      match outcome policy (verdict p) text with
      | .skip => kept policy verdict ps
      | .accessor _ => (kept policy verdict ps).map (p :: ·)
      | .stop => none := by
  cases hvalid : isValid (verdict p) with
  | true =>
    cases policy with
    | omitted => simp [kept, outcome, hvalid]
    | emitted => simp [kept, outcome, hvalid]
    | aborted =>
      simp only [kept, outcome, hvalid, List.all_cons, Bool.true_and]
      split <;> rfl
  | false => cases policy <;> simp [kept, outcome, hvalid]

/-- The report of the first preference is let through, and ends the reports if it ends the class. -/
theorem reported_cons (policy : Policy) (holder : TypeDecl) (p : Preference) (v : Verdict)
    (faults : List Diagnostic) (text : Text) :
    reported policy ((fault? holder p v).toList ++ faults) =
      match outcome policy v text with
      | .stop => (fault? holder p v).toList
      | _ => (fault? holder p v).toList ++ reported policy faults := by
  cases herror : v.error? with
  | none => cases policy <;> simp [reported, outcome, fault?, isValid, herror]
  | some error => cases policy <;> simp [reported, outcome, fault?, isValid, herror]

/-- The validation of each preference of a holder returns. -/
def Validates (g : SymbolGraph) (holder : TypeDecl) : Prop :=
  ∀ properties, g.properties holder.id = .ok properties →
    ∀ p ∈ preferences holder properties, ∃ v, p.validate g = .ok v

/-- The properties of a consistent holder can be looked up, and everything about them resolves. -/
theorem properties_of_isConsistent {id : Text} (h : g.isConsistent id = .ok true) :
    ∃ properties, g.properties id = .ok properties ∧
      ∀ property ∈ properties, g.resolves property = .ok true := by
  obtain ⟨properties, hproperties, hall⟩ := bind_eq_ok_iff.1 h
  exact ⟨properties, hproperties, allM_eq_ok_true_iff.1 hall⟩

/-- The properties of a consistent holder whose validations return: they resolve, and the preferences
among them have verdicts and variables. -/
structure Judged (g : SymbolGraph) (options : Options) (holder : TypeDecl)
    (properties : List Declaration) (verdict : Preference → Verdict)
    (block : Preference → Text) : Prop where
  properties_eq : g.properties holder.id = .ok properties
  resolves : ∀ property ∈ properties, g.resolves property = .ok true
  validate_eq : ∀ p ∈ preferences holder properties, p.validate g = .ok (verdict p)
  accessor_eq : ∀ p ∈ preferences holder properties, accessor g options p = .ok (block p)

/-- The variables do not depend on the policy. -/
theorem Judged.withPolicy (h : Judged g options holder properties verdict block)
    (policy : Policy) :
    Judged g { options with policy := policy } holder properties verdict block where
  properties_eq := h.properties_eq
  resolves := h.resolves
  validate_eq := h.validate_eq
  accessor_eq := h.accessor_eq

/-- A consistent holder whose validations return can be judged: its preferences have variables. -/
theorem exists_judged (hsound : g.Sound) (hconsistent : g.isConsistent holder.id = .ok true)
    (hvalidates : Validates g holder) (options : Options) :
    ∃ properties verdict block, Judged g options holder properties verdict block := by
  obtain ⟨properties, hproperties, hresolves⟩ := properties_of_isConsistent hconsistent
  have : Nonempty Verdict := ⟨.valid⟩
  obtain ⟨verdict, hverdict⟩ := exists_results (hvalidates properties hproperties)
  have hvariable : ∀ p ∈ preferences holder properties, ∃ text, accessor g options p = .ok text := by
    intro p hp
    exact accessor_total (resolved_of_mem hresolves hp) hsound (hverdict p hp) options
  obtain ⟨block, hblock⟩ := exists_results hvariable
  exact ⟨properties, verdict, block, hproperties, hresolves, hverdict, hblock⟩

/-- What all properties of a consistent holder contribute, once the validation of each preference
returns: the reports and the variables that the policy lets through. -/
theorem accessors_eq (hsound : g.Sound)
    (hresolves : ∀ property ∈ properties, g.resolves property = .ok true)
    (hverdict : ∀ p ∈ preferences holder properties, p.validate g = .ok (verdict p))
    (hblock : ∀ p ∈ preferences holder properties, accessor g options p = .ok (block p)) :
    accessors g options holder properties =
      ⟨reported options.policy
          ((preferences holder properties).filterMap fun p => fault? holder p (verdict p)),
        .ok ((kept options.policy verdict (preferences holder properties)).map
          (List.map block))⟩ := by
  induction properties with
  | nil => cases options.policy <;> simp [accessors, preferences, reported, kept]
  | cons property rest ih =>
    have hsub : ∀ p ∈ preferences holder rest, p ∈ preferences holder (property :: rest) := by
      intro p hp
      rw [preferences, List.filterMap_cons]
      split
      · exact hp
      · exact List.mem_cons_of_mem _ hp
    have hrest := ih (fun q hq => hresolves q (by simp [hq])) (fun p hp => hverdict p (hsub p hp))
      fun p hp => hblock p (hsub p hp)
    rcases step_cases hsound (hresolves property (by simp)) options holder with
      ⟨hnone, hstep⟩ | ⟨p, hp, hfailed | ⟨v, text, hv, htext, hstep⟩⟩
    · -- no preference
      rw [accessors_of_skip hstep, hrest]
      simp [preferences, hnone]
    · -- a validation that fails
      obtain ⟨failure, hfailure, -⟩ := hfailed
      have hmem : p ∈ preferences holder (property :: rest) := by simp [preferences, hp]
      rw [hverdict p hmem] at hfailure
      cases hfailure
    · -- a preference with a verdict and a variable
      have hmem : p ∈ preferences holder (property :: rest) := by simp [preferences, hp]
      have hverdict' := hverdict p hmem
      rw [hv, Except.ok.injEq] at hverdict'
      have hblock' := hblock p hmem
      rw [htext, Except.ok.injEq] at hblock'
      have hps : preferences holder (property :: rest) = p :: preferences holder rest := by
        rw [preferences, List.filterMap_cons, hp]
        rfl
      have hfaults : ((p :: preferences holder rest).filterMap fun p => fault? holder p (verdict p)) =
          (fault? holder p v).toList ++
            (preferences holder rest).filterMap fun p => fault? holder p (verdict p) := by
        rw [List.filterMap_cons, ← hverdict']
        cases fault? holder p v <;> rfl
      rw [hps, hfaults, reported_cons _ _ _ _ _ text, kept_cons _ _ _ _ text, ← hverdict']
      cases houtcome : outcome options.policy v text with
      | skip =>
        rw [houtcome] at hstep
        rw [accessors_of_skip hstep, hrest]
      | stop =>
        rw [houtcome] at hstep
        rw [accessors_of_stop hstep]
        rfl
      | accessor other =>
        rw [houtcome] at hstep
        rw [accessors_of_accessor hstep, hrest, text_of_outcome houtcome, hblock']
        cases kept options.policy verdict (preferences holder rest) <;> rfl

/-- The report of a preference, if its validation returns and finds a fault. -/
def faultOf? (g : SymbolGraph) (holder : TypeDecl) (p : Preference) : Option Diagnostic :=
  match p.validate g with
  | .ok verdict => fault? holder p verdict
  | .error _ => none

theorem isFault_of_faultOf? {d : Diagnostic} (h : faultOf? g holder p = some d) : IsFault d := by
  unfold faultOf? at h
  split at h
  · exact isFault_of_fault? h
  · cases h

/-- Whatever becomes of a class, each report about it is the fault of one of its preferences. -/
theorem faultOf?_of_accessors (hsound : g.Sound)
    (hresolves : ∀ property ∈ properties, g.resolves property = .ok true) :
    ∀ d ∈ (accessors g options holder properties).diagnostics,
      ∃ p ∈ preferences holder properties, faultOf? g holder p = some d := by
  induction properties with
  | nil => simp [accessors]
  | cons property rest ih =>
    have hrest := ih fun q hq => hresolves q (by simp [hq])
    rcases step_cases hsound (hresolves property (by simp)) options holder with
      ⟨hnone, hstep⟩ | ⟨p, hp, ⟨failure, -, hstep⟩ | ⟨v, text, hv, -, hstep⟩⟩
    · rw [accessors_of_skip hstep, preferences, List.filterMap_cons, hnone]
      exact hrest
    · rw [accessors_of_error hstep]
      simp
    · rw [preferences, List.filterMap_cons, hp]
      have hhead : ∀ d ∈ (fault? holder p v).toList, ∃ q ∈ p :: preferences holder rest,
          faultOf? g holder q = some d := fun d hd =>
        ⟨p, List.mem_cons_self, by rw [faultOf?, hv]; exact Option.mem_toList.1 hd⟩
      have hboth : ∀ d ∈ (fault? holder p v).toList ++ (accessors g options holder rest).diagnostics,
          ∃ q ∈ p :: preferences holder rest, faultOf? g holder q = some d := by
        intro d hd
        rcases List.mem_append.1 hd with hd | hd
        · exact hhead d hd
        · obtain ⟨q, hq, hfault⟩ := hrest d hd
          exact ⟨q, List.mem_cons_of_mem _ hq, hfault⟩
      cases houtcome : outcome options.policy v text with
      | skip =>
        rw [houtcome] at hstep
        rw [accessors_of_skip hstep]
        exact hboth
      | stop =>
        rw [houtcome] at hstep
        rw [accessors_of_stop hstep]
        exact hhead
      | accessor other =>
        rw [houtcome] at hstep
        rw [accessors_of_accessor hstep]
        exact hboth

/-- Where the properties of a consistent holder do not fail, the class is left out only by a fault
that was to end it, which is the only one reported. -/
theorem accessors_eq_none (hsound : g.Sound)
    (hresolves : ∀ property ∈ properties, g.resolves property = .ok true)
    (h : (accessors g options holder properties).result = .ok none) :
    options.policy = .aborted ∧
      ∃ d, (accessors g options holder properties).diagnostics = [d] := by
  induction properties with
  | nil => cases h
  | cons property rest ih =>
    have hrest := ih fun q hq => hresolves q (by simp [hq])
    rcases step_cases hsound (hresolves property (by simp)) options holder with
      ⟨-, hstep⟩ | ⟨p, -, ⟨failure, -, hstep⟩ | ⟨v, text, -, -, hstep⟩⟩
    · rw [accessors_of_skip hstep] at h ⊢
      exact hrest h
    · rw [accessors_of_error hstep] at h
      cases h
    · rcases outcome_cases options.policy holder p v text with
        ⟨hfault, hout⟩ | ⟨d, hfault, ⟨hpolicy, hout⟩ | ⟨hpolicy, hout | hout⟩⟩
      · rw [hfault, hout] at hstep
        rw [accessors_of_accessor hstep] at h ⊢
        obtain ⟨further, hfurther, hnone⟩ := map_eq_ok_iff.1 h
        cases Option.map_eq_none_iff.1 hnone
        exact hrest hfurther
      · rw [hfault, hout] at hstep
        rw [accessors_of_stop hstep]
        exact ⟨hpolicy, d, rfl⟩
      · rw [hfault, hout] at hstep
        rw [accessors_of_skip hstep] at h
        exact absurd (hrest h).1 hpolicy
      · rw [hfault, hout] at hstep
        rw [accessors_of_accessor hstep] at h
        obtain ⟨further, hfurther, hnone⟩ := map_eq_ok_iff.1 h
        cases Option.map_eq_none_iff.1 hnone
        exact absurd (hrest hfurther).1 hpolicy

/-- Unless a fault ends the class, the validation of each preference returns. -/
theorem validate_of_accessors (hsound : g.Sound)
    (hresolves : ∀ property ∈ properties, g.resolves property = .ok true)
    {texts : Option (List Text)} (hends : texts = none → options.policy ≠ .aborted)
    (h : (accessors g options holder properties).result = .ok texts) :
    ∀ p ∈ preferences holder properties, ∃ v, p.validate g = .ok v := by
  induction properties generalizing texts with
  | nil => simp [preferences]
  | cons property rest ih =>
    have hrest : ∀ texts, (texts = none → options.policy ≠ .aborted) →
        (accessors g options holder rest).result = .ok texts → _ :=
      fun _ => ih (fun q hq => hresolves q (by simp [hq]))
    rcases step_cases hsound (hresolves property (by simp)) options holder with
      ⟨hnone, hstep⟩ | ⟨p, hp, ⟨failure, -, hstep⟩ | ⟨v, text, hv, -, hstep⟩⟩
    · rw [accessors_of_skip hstep] at h
      rw [preferences, List.filterMap_cons, hnone]
      exact hrest texts hends h
    · rw [accessors_of_error hstep] at h
      cases h
    · -- whatever the head contributes, the rest of the class is still looked at
      have hfurther : ∃ further, (further = none → options.policy ≠ .aborted) ∧
          (accessors g options holder rest).result = .ok further := by
        cases houtcome : outcome options.policy v text with
        | skip =>
          rw [houtcome] at hstep
          rw [accessors_of_skip hstep] at h
          exact ⟨texts, hends, h⟩
        | stop =>
          rw [houtcome] at hstep
          rw [accessors_of_stop hstep] at h
          cases h
          exact absurd (policy_of_outcome houtcome) (hends rfl)
        | accessor other =>
          rw [houtcome] at hstep
          rw [accessors_of_accessor hstep] at h
          obtain ⟨further, hfurther, rfl⟩ := map_eq_ok_iff.1 h
          exact ⟨further, fun hnone => hends (by rw [hnone]; rfl), hfurther⟩
      obtain ⟨further, hends, hfurther⟩ := hfurther
      rw [preferences, List.filterMap_cons, hp]
      intro q hq
      rcases List.mem_cons.1 hq with rfl | hq
      · exact ⟨v, hv⟩
      · exact hrest further hends hfurther q hq

/-- Where the variables of a class fail, the validation of a preference does. Those before it
returned, and what they found is all that was reported. -/
theorem accessors_error_cases (hsound : g.Sound)
    (hresolves : ∀ property ∈ properties, g.resolves property = .ok true) {failure : Failure}
    (h : (accessors g options holder properties).result = .error failure) :
    ∃ examined p rest, preferences holder properties = examined ++ p :: rest ∧
      (∀ q ∈ examined, ∃ v, q.validate g = .ok v) ∧ p.validate g = .error failure ∧
      (accessors g options holder properties).diagnostics =
        examined.filterMap (faultOf? g holder) := by
  induction properties with
  | nil => cases h
  | cons property rest ih =>
    have hrest := ih fun q hq => hresolves q (by simp [hq])
    rcases step_cases hsound (hresolves property (by simp)) options holder with
      ⟨hnone, hstep⟩ | ⟨p, hp, ⟨failure', hv, hstep⟩ | ⟨v, text, hv, -, hstep⟩⟩
    · rw [accessors_of_skip hstep] at h ⊢
      rw [preferences, List.filterMap_cons, hnone]
      exact hrest h
    · rw [accessors_of_error hstep] at h ⊢
      cases h
      rw [preferences, List.filterMap_cons, hp]
      exact ⟨[], p, _, rfl, by simp, hv, rfl⟩
    · -- the head does not fail, so the rest does, behind the report of the head
      have hfails : (accessors g options holder rest).result = .error failure ∧
          (accessors g options holder (property :: rest)).diagnostics =
            (fault? holder p v).toList ++ (accessors g options holder rest).diagnostics := by
        cases houtcome : outcome options.policy v text with
        | skip =>
          rw [houtcome] at hstep
          rw [accessors_of_skip hstep] at h ⊢
          exact ⟨h, rfl⟩
        | stop =>
          rw [houtcome] at hstep
          rw [accessors_of_stop hstep] at h
          cases h
        | accessor other =>
          rw [houtcome] at hstep
          rw [accessors_of_accessor hstep] at h ⊢
          exact ⟨map_eq_error_iff.1 h, rfl⟩
      obtain ⟨hresult, hdiagnostics⟩ := hfails
      obtain ⟨examined, q, behind, hsplit, hexamined, hvalidate, hreported⟩ := hrest hresult
      have hfault : faultOf? g holder p = fault? holder p v := by rw [faultOf?, hv]
      refine ⟨p :: examined, q, behind, ?_, ?_, hvalidate, ?_⟩
      · rw [preferences, List.filterMap_cons, hp]
        exact congrArg (p :: ·) hsplit
      · exact List.forall_mem_cons.2 ⟨⟨v, hv⟩, hexamined⟩
      · rw [hdiagnostics, hreported, List.filterMap_cons, hfault]
        cases fault? holder p v <;> rfl

/-- Where the variables of a class fail, the validation of a preference does. -/
theorem exists_of_accessors_error (hsound : g.Sound)
    (hresolves : ∀ property ∈ properties, g.resolves property = .ok true) {failure : Failure}
    (h : (accessors g options holder properties).result = .error failure) :
    ∃ p ∈ preferences holder properties, p.validate g = .error failure := by
  obtain ⟨examined, p, rest, hsplit, -, hvalidate, -⟩ := accessors_error_cases hsound hresolves h
  exact ⟨p, hsplit ▸ List.mem_append_right _ List.mem_cons_self, hvalidate⟩

/-- A class with variables reports all faults of its preferences. -/
theorem diagnostics_of_accessors (hsound : g.Sound)
    (hresolves : ∀ property ∈ properties, g.resolves property = .ok true) {texts : List Text}
    (h : (accessors g options holder properties).result = .ok (some texts)) :
    (∀ p ∈ preferences holder properties, ∃ v, p.validate g = .ok v) ∧
      (accessors g options holder properties).diagnostics =
        (preferences holder properties).filterMap (faultOf? g holder) := by
  have hvalidates := validate_of_accessors hsound hresolves (by simp) h
  have : Nonempty Verdict := ⟨.valid⟩
  obtain ⟨verdict, hverdict⟩ := exists_results hvalidates
  obtain ⟨block, hblock⟩ := exists_results fun p hp =>
    accessor_total (resolved_of_mem hresolves hp) hsound (hverdict p hp) options
  have hfaults : (preferences holder properties).filterMap (faultOf? g holder) =
      (preferences holder properties).filterMap fun p => fault? holder p (verdict p) := by
    refine List.filterMap_congr fun p hp => ?_
    rw [faultOf?, hverdict p hp]
  refine ⟨hvalidates, ?_⟩
  rw [accessors_eq hsound hresolves hverdict hblock] at h ⊢
  rw [hfaults]
  cases hpolicy : options.policy with
  | omitted => rfl
  | emitted => rfl
  | aborted =>
    -- no fault ended the class, so there is none
    simp only [hpolicy, kept, Except.ok.injEq, Option.map_eq_some_iff] at h
    obtain ⟨ps, hps, -⟩ := h
    split at hps
    · rename_i hvalid
      rw [filterMap_fault?_eq_nil_iff.2 (List.all_eq_true.1 hvalid)]
      rfl
    · cases hps

end Holder

end KotlinPreferences
