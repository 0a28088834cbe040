import KotlinPreferences.Proofs.Document.Reserved
import KotlinPreferences.Proofs.Pass.Siblings
import KotlinPreferences.Proofs.Preference.Verdicts

/-!
# When a pass fails

Nothing ends a pass over an accepted document but a converter that reads nothing, two classes of one
name, or a class without an encoding. Each of them does end it, unless a fault ends the class first.

* `SymbolGraph.SharesName`: two ready interfaces of one name;
* `Holder.validates_iff`: the validations of a ready holder return unless one of its converters
  reads nothing;
* `Workspace.generate_error_cases`, `Workspace.exists_of_processAll_error`: why the generation of a
  holder fails, and at which holder a run does;
* `Workspace.distinct_of_processAll`: the classes of a run that returns have different names;
* `Workspace.process_fails_iff`: when a pass fails, and with what.
-/

namespace KotlinPreferences

/-- Two ready interfaces of a graph share their name. -/
def SymbolGraph.SharesName (g : SymbolGraph) : Prop :=
  ∃ a ∈ g.readyInterfaces g.holders, ∃ b ∈ g.readyInterfaces g.holders, a.id ≠ b.id ∧ a.name = b.name

/-! ### Validations -/

namespace Holder

variable {g : SymbolGraph} {holder : TypeDecl} {p : Preference}

/-- A validation that fails does so at a converter that reads nothing. -/
theorem readsNothing_of_validate (hwf : g.WellFormed)
    (hnames : ∀ t ∈ g.typeDecls, t.qualifiedName.isText = true) (hresolved : Resolved g holder p)
    {failure : Failure} (h : p.validate g = .error failure) :
    failure.family = .badLookup ∧
      ∃ t, g.typeOf (Preference.converterName p.entry) = .ok (some (.typeDecl t)) ∧
        g.ReadsNothing t := by
  obtain ⟨q, t, -, htype, hfinding⟩ :=
    hresolved.finding hwf (hwf.declared.keyed hnames)
  rw [h] at hfinding
  obtain ⟨hfamily, hreads⟩ := hfinding.readsNothing
  exact ⟨hfamily, t, htype, hreads⟩

/-- The validations of a ready holder return, unless one of its converters reads nothing. -/
theorem validates_iff (hwf : g.WellFormed)
    (hnames : ∀ t ∈ g.typeDecls, t.qualifiedName.isText = true)
    (hconsistent : g.isConsistent holder.id = .ok true) :
    Validates g holder ↔ ¬ g.HasUnreadable holder := by
  obtain ⟨properties, hproperties, hresolves⟩ := properties_of_isConsistent hconsistent
  have htargets := hwf.sound.properties_eq holder.id
  rw [hproperties, Except.ok.injEq] at htargets
  rw [hasUnreadable_iff hwf.sound, ← htargets]
  constructor
  · rintro hvalidates ⟨p, hp, t, htype, hreads⟩
    obtain ⟨verdict, hverdict⟩ := hvalidates properties hproperties p hp
    obtain ⟨q, other, -, hother, hfinding⟩ :=
      (resolved_of_mem hresolves hp).finding hwf (hwf.declared.keyed hnames)
    rw [htype] at hother
    cases hother
    rw [hverdict] at hfinding
    exact hfinding.not_readsNothing hreads
  · intro hreadable others hothers p hp
    rw [hproperties, Except.ok.injEq] at hothers
    subst hothers
    cases hverdict : p.validate g with
    | ok verdict => exact ⟨verdict, rfl⟩
    | error failure =>
      obtain ⟨-, hreads⟩ :=
        readsNothing_of_validate hwf hnames (resolved_of_mem hresolves hp) hverdict
      exact absurd ⟨p, hp, hreads⟩ hreadable

end Holder

/-! ### Runs -/

namespace Workspace

open Holder

variable {g : SymbolGraph} {options : Options} {holder : TypeDecl} {holders : List TypeDecl}
  {w w' : Workspace} {package : Text} {failure : Failure}

/-- Without a disk, the generation of a declaration fails because its draft does, because the name of
its draft is taken, or because its text has no encoding. -/
theorem generate_error_cases (hdisk : w.sink.disk = none) {d : Declaration}
    (h : (w.generate g options d).2 = .error failure) :
    ∃ ds, Holder.draft g options d = ⟨ds, .error failure⟩ ∨
      ∃ draft, Holder.draft g options d = ⟨ds, .ok (some draft)⟩ ∧
        ((∃ path, w.sink.created.lookup (draft.package, draft.name) = some path ∧
            failure = .existingFile path) ∨
          draft.content.isUnicode = false ∧ failure = .unencodable) := by
  rw [generate] at h
  rcases hdraft : Holder.draft g options d with ⟨ds, failure' | _ | draft⟩
  · rw [hdraft] at h
    cases h
    exact ⟨ds, .inl rfl⟩
  · rw [hdraft] at h
    cases h
  · rw [hdraft] at h
    refine ⟨ds, .inr ⟨draft, rfl, ?_⟩⟩
    cases hname : w.sink.created.lookup (draft.package, draft.name) with
    | some path =>
      rw [absorb_of_created hname] at h
      cases h
      exact .inl ⟨path, rfl, rfl⟩
    | none =>
      -- the name is free, and there is no disk to refuse the file
      rw [absorb_of_new hname] at h
      rcases Sink.putting_eq_error_iff.1 h with hrefused | ⟨-, hunicode, rfl⟩
      · rw [w.sink.taking_of_disk_eq_none hdisk] at hrefused
        cases hrefused
      · exact .inr ⟨hunicode, rfl⟩

/-- A run without a disk stays without one. -/
theorem disk_processAll (hsound : g.Sound) (hdisk : w.sink.disk = none) :
    (processAll g options holders w).1.sink.disk = none := by
  refine processAll_invariant (P := fun w => w.sink.disk = none) ?_ hdisk
  intro holder _ hconsistent w hw
  rcases sink_generate hsound hconsistent w with hsame | ⟨-, file, -, hholding⟩
  · rw [hsame]
    exact hw
  · rw [hholding]
    show w.sink.disk.map _ = none
    rw [hw]
    rfl

/-- A ready interface whose generation returns has taken its name, which was free. -/
theorem created_generate (hsound : g.Sound) (hconsistent : g.isConsistent holder.id = .ok true)
    (hkind : holder.kind = .interface) (hpolicy : options.policy ≠ .aborted)
    (hpackage : options.package = .str package)
    (h : w.generate g options (.typeDecl holder) = (w', .ok ())) :
    w.sink.created.lookup (package, holder.name) = none ∧
      ∃ path, w'.sink.created = w.sink.created ++ [((package, holder.name), path)] := by
  obtain ⟨ds, found, hdraft, ⟨rfl, -⟩ | ⟨draft, rfl, -, hnew, rfl⟩⟩ := generate_cases h
  · -- an interface has a draft unless a fault ends the class
    rcases draft_cases hsound hconsistent hdraft with ⟨hne, -⟩ | ⟨-, -, ⟨_, _, _, hsome, -⟩ | hends⟩
    · exact absurd hkind hne
    · cases hsome
    · exact absurd hends.1 hpolicy
  · obtain ⟨-, hpackage', hname, -⟩ := classFile_of_draft hsound hconsistent hdraft
    rw [hpackage, Value.str.injEq] at hpackage'
    rw [hpackage', ← hname]
    exact ⟨hnew, draft.file.path, rfl⟩

/-- Where no fault ends a class, the ready interfaces of a run that returns have different names,
and none of them was taken before. -/
theorem distinct_of_processAll (hsound : g.Sound) (hpolicy : options.policy ≠ .aborted)
    (hpackage : options.package = .str package) {deferred : List TypeDecl}
    (h : processAll g options holders w = (w', .ok deferred)) :
    ((g.readyInterfaces holders).map TypeDecl.name).Nodup ∧
      ∀ holder ∈ g.readyInterfaces holders,
        w.sink.created.lookup (package, holder.name) = none := by
  induction holders generalizing w w' deferred with
  | nil => simp [SymbolGraph.readyInterfaces]
  | cons holder rest ih =>
    rw [processAll] at h
    obtain ⟨ready, hconsistent⟩ := hsound.isConsistent_total holder.id
    have hready : g.isReady holder = ready := by rw [SymbolGraph.isReady, hconsistent]
    rw [hconsistent] at h
    cases ready with
    | false =>
      rcases hrest : processAll g options rest w with ⟨w₁, failure | further⟩
      · simp only [hrest] at h
        cases h
      · simpa [SymbolGraph.readyInterfaces, hready] using ih hrest
    | true =>
      rcases hgenerate : w.generate g options (.typeDecl holder) with ⟨w₁, failure | u⟩
      · simp only [hgenerate] at h
        cases h
      · simp only [hgenerate] at h
        obtain ⟨hdistinct, hfree⟩ := ih h
        by_cases hkind : holder.kind = .interface
        · -- the name of the holder is taken for the rest of the run
          obtain ⟨hnew, path, hcreated⟩ :=
            created_generate hsound hconsistent hkind hpolicy hpackage hgenerate
          have hrest : ∀ other ∈ g.readyInterfaces rest,
              w.sink.created.lookup (package, other.name) = none ∧ other.name ≠ holder.name := by
            intro other hother
            have hnone := hfree other hother
            rw [hcreated, List.lookup_append, Option.or_eq_none_iff] at hnone
            refine ⟨hnone.1, fun hsame => ?_⟩
            rw [hsame, List.lookup_cons_self] at hnone
            cases hnone.2
          have hcons : g.readyInterfaces (holder :: rest) = holder :: g.readyInterfaces rest := by
            simp [SymbolGraph.readyInterfaces, hready, hkind]
          rw [hcons, List.map_cons, List.nodup_cons]
          refine ⟨⟨fun hmem => ?_, hdistinct⟩, ?_⟩
          · obtain ⟨other, hother, hsame⟩ := List.mem_map.1 hmem
            exact (hrest other hother).2 hsame
          · exact List.forall_mem_cons.2 ⟨hnew, fun other hother => (hrest other hother).1⟩
        · rcases @sink_generate g options holder hsound hconsistent w with hsame | ⟨hyes, -⟩
          · rw [hgenerate] at hsame
            rw [show w₁.sink = w.sink from hsame] at hfree
            simpa [SymbolGraph.readyInterfaces, hkind] using And.intro hdistinct hfree
          · exact absurd hyes hkind

/-- A run over one holder that fails does so in its generation, and not in the question whether it
is consistent. -/
theorem generate_of_processAll_error (hsound : g.Sound)
    (h : (processAll g options [holder] w).2 = .error failure) :
    g.isConsistent holder.id = .ok true ∧
      (w.generate g options (.typeDecl holder)).2 = .error failure := by
  obtain ⟨ready, hready⟩ := hsound.isConsistent_total holder.id
  rw [processAll, hready] at h
  cases ready with
  | false => cases h
  | true =>
    refine ⟨hready, ?_⟩
    rcases hgenerate : w.generate g options (.typeDecl holder) with ⟨w', failure' | u⟩
    · simp only [hgenerate] at h
      cases h
      rfl
    · simp only [hgenerate] at h
      cases h

/-- A pass that fails does so at a ready holder. A converter of it reads nothing, or it shares its name
with one before it, or its class has no encoding. -/
theorem process_error_cases (hwf : g.WellFormed)
    (hnames : ∀ t ∈ g.typeDecls, t.qualifiedName.isText = true)
    (hpackage : options.package = .str package) (hsink : w.sink = {})
    (h : (w.process g options).2 = .error failure) :
    failure.family = .badLookup ∧ (∃ holder ∈ g.readyInterfaces g.holders, g.HasUnreadable holder) ∨
      failure.family = .existingFile ∧ g.SharesName ∨
      failure.family = .unencodable ∧
        ∃ holder ∈ g.readyInterfaces g.holders, g.HasUnencodable options holder := by
  have hsound := hwf.sound
  obtain ⟨done, holder, left, w₁, deferred, hsplit, hdone, hfails⟩ := exists_of_processAll_error h
  have hmem : holder ∈ g.holders := hsplit ▸ List.mem_append_right _ List.mem_cons_self
  obtain ⟨hconsistent, hgenerate⟩ := generate_of_processAll_error hsound hfails
  have hready := SymbolGraph.isReady_iff.2 hconsistent
  have hdisk : w₁.sink.disk = none := by
    have hnone := @disk_processAll g options done w hsound (by rw [hsink])
    rw [hdone] at hnone
    exact hnone
  rcases generate_error_cases hdisk hgenerate with
    ⟨ds, hdraft | ⟨draft, hdraft, ⟨path, hname, rfl⟩ | ⟨hunicode, rfl⟩⟩⟩
  · obtain ⟨hkind, properties, hproperties, hresolves, p, hp, hvalidate⟩ :=
      exists_of_draft_error hsound hconsistent hpackage hdraft
    obtain ⟨hfamily, hreads⟩ :=
      readsNothing_of_validate hwf hnames (resolved_of_mem hresolves hp) hvalidate
    rw [hsound.properties_eq, Except.ok.injEq] at hproperties
    refine .inl ⟨hfamily, holder, SymbolGraph.mem_readyInterfaces.2 ⟨hmem, hready, hkind⟩, ?_⟩
    exact (hasUnreadable_iff hsound).2 ⟨p, hproperties ▸ hp, hreads⟩
  · obtain ⟨hkind, -, hdrafted, -⟩ := classFile_of_draft hsound hconsistent hdraft
    -- the name was taken by a ready interface that the pass has gone through
    have htaken : w₁.sink.Names fun name => ∃ a ∈ g.readyInterfaces done, a.name = name := by
      have hrun := @names_processAll g options done w hsound
        (fun name => ∃ a ∈ g.readyInterfaces done, a.name = name)
        (hsink ▸ Sink.Names.empty _ none) fun a ha hready hkind =>
          ⟨a, SymbolGraph.mem_readyInterfaces.2 ⟨ha, hready, hkind⟩, rfl⟩
      rw [hdone] at hrun
      exact hrun
    obtain ⟨a, ha, hsame⟩ := htaken.created _ (SymbolGraph.mem_of_lookup hname)
    obtain ⟨hmemA, hreadyA, hkindA⟩ := SymbolGraph.mem_readyInterfaces.1 ha
    have hnodup := nodup_holders hsound.declared
    rw [hsplit, List.map_append, List.nodup_append] at hnodup
    refine .inr (.inl ⟨rfl, a, SymbolGraph.mem_readyInterfaces.2 ⟨?_, hreadyA, hkindA⟩, holder,
      SymbolGraph.mem_readyInterfaces.2 ⟨hmem, hready, hkind⟩, ?_, hsame.trans hdrafted⟩)
    · exact hsplit ▸ List.mem_append_left _ hmemA
    · exact hnodup.2.2 a.id (List.mem_map_of_mem hmemA) holder.id (by simp)
  · have hkind := (classFile_of_draft hsound hconsistent hdraft).1
    exact .inr (.inr ⟨rfl, holder, SymbolGraph.mem_readyInterfaces.2 ⟨hmem, hready, hkind⟩, draft,
      draft?_eq hdraft, hunicode⟩)

/-- **When a pass fails.** A pass over an accepted document fails with nothing but a lookup in a
converter that reads nothing; a file that exists: then two ready interfaces share their name; or a
text without an encoding: then it is the class of a ready interface. Where no fault ends a class, each
of the three makes it fail. -/
theorem process_fails_iff {v : Value} (hread : Document.read v = .ok g)
    (havoids : Document.avoidsReserved v = true)
    (hnames : ∀ t ∈ g.typeDecls, t.qualifiedName.isText = true)
    (hpackage : options.package = .str package) (hsink : w.sink = {}) :
    let unreadable := ∃ holder ∈ g.readyInterfaces g.holders, g.HasUnreadable holder
    let unencodable := ∃ holder ∈ g.readyInterfaces g.holders, g.HasUnencodable options holder
    (∀ failure, (w.process g options).2 = .error failure →
      failure.family = .badLookup ∧ unreadable ∨ failure.family = .existingFile ∧ g.SharesName ∨
        failure.family = .unencodable ∧ unencodable) ∧
    (options.policy ≠ .aborted →
      ((∃ failure, (w.process g options).2 = .error failure) ↔
        unreadable ∨ g.SharesName ∨ unencodable)) := by
  intro unreadable unencodable
  have hwf := (Document.read_wellFormed hread havoids).1
  have hcases : ∀ failure, (w.process g options).2 = .error failure →
      failure.family = .badLookup ∧ unreadable ∨ failure.family = .existingFile ∧ g.SharesName ∨
        failure.family = .unencodable ∧ unencodable :=
    fun failure => process_error_cases hwf hnames hpackage hsink
  refine ⟨hcases, fun hpolicy => ⟨?_, fun hfaulty => ?_⟩⟩
  · rintro ⟨failure, h⟩
    exact (hcases failure h).imp And.right (Or.imp And.right And.right)
  · rcases hprocess : w.process g options with ⟨w', failure | deferred⟩
    · exact ⟨failure, rfl⟩
    · -- a pass that returns has written each of its classes, under names of their own
      exfalso
      have hall := (processAll_eq hprocess none).1
      rcases hfaulty with ⟨holder, hmem, hunreadable⟩ | ⟨a, ha, b, hb, hne, hsame⟩ |
        ⟨holder, hmem, hunencodable⟩
      · obtain ⟨hmem, hready, hkind⟩ := SymbolGraph.mem_readyInterfaces.1 hmem
        have hconsistent := SymbolGraph.isReady_iff.1 hready
        obtain ⟨ds, found, hdraft⟩ := (hall holder hmem).drafted hready
        have hvalidates :=
          validates_of_draft hwf.sound hconsistent hkind (fun _ => hpolicy) hdraft
        exact (validates_iff hwf hnames hconsistent).1 hvalidates hunreadable
      · have hdistinct := (distinct_of_processAll hwf.sound hpolicy hpackage hprocess).1
        exact hne (congrArg TypeDecl.id (List.inj_on_of_nodup_map hdistinct ha hb hsame))
      · obtain ⟨hmem, hready, -⟩ := SymbolGraph.mem_readyInterfaces.1 hmem
        exact (hall holder hmem).encodable hready hunencodable

/-- The pass over the three siblings ends at a holder whose converter reads nothing, and so it does
where invalid preferences are kept. -/
theorem process_siblings_fails :
    (∃ holder ∈ Sample.siblingGraph.readyInterfaces Sample.siblingGraph.holders,
      Sample.siblingGraph.HasUnreadable holder) ∧
    ∃ failure, (({} : Workspace).process Sample.siblingGraph
      { Sample.options with policy := .emitted }).2 = .error failure := by
  have havoids : Document.avoidsReserved Sample.siblings = true := by decide +kernel
  have hnames : ∀ t ∈ Sample.siblingGraph.typeDecls, t.qualifiedName.isText = true := by
    decide +kernel
  have hfails : (match (({} : Workspace).process Sample.siblingGraph Sample.options).2 with
      | .error failure => failure.family == .badLookup
      | .ok _ => false) = true := by decide +kernel
  have hpackage : Sample.options.package = .str Vocabulary.defaultPackage := rfl
  have hkept : ({ Sample.options with policy := .emitted } : Options).package =
      .str Vocabulary.defaultPackage := rfl
  obtain ⟨hcases, -⟩ := process_fails_iff (w := {}) Sample.read_siblings havoids hnames hpackage rfl
  obtain ⟨-, hiff⟩ := process_fails_iff (w := {}) Sample.read_siblings havoids hnames hkept rfl
  split at hfails
  · rename_i failure hfailure
    rcases hcases failure hfailure with ⟨-, hunreadable⟩ | ⟨hexisting, -⟩ | ⟨hunencodable, -⟩
    · exact ⟨hunreadable, (hiff (by decide)).2 (.inl hunreadable)⟩
    · rw [hexisting] at hfails
      cases hfails
    · rw [hunencodable] at hfails
      cases hfails
  · cases hfails

/-- A key that is a surrogate ends the pass over the only holder, though its converter reads texts and
nothing else has its name. -/
theorem process_unpairedKey : Document.read Sample.unpairedKey = .ok Sample.unpairedGraph ∧
    Document.avoidsReserved Sample.unpairedKey = true ∧
    (∀ t ∈ Sample.unpairedGraph.typeDecls, t.qualifiedName.isText = true) ∧
    ∃ failure, (({} : Workspace).process Sample.unpairedGraph Sample.options).2 = .error failure ∧
      failure.family ≠ .badLookup ∧ failure.family ≠ .existingFile := by
  refine ⟨Sample.read_unpairedKey, by decide +kernel, by decide +kernel, .unencodable, ?_, by decide,
    by decide⟩
  have hdraft : (onlyDraft? Sample.unpairedGraph Sample.options).map
      (fun draft => draft.content.isUnicode) = some false := by decide +kernel
  obtain ⟨draft, hdraft, hunicode⟩ := Option.map_eq_some_iff.1 hdraft
  obtain ⟨ds, hprocess⟩ := process_of_onlyDraft?_unencodable hdraft hunicode
  rw [hprocess]

end Workspace

end KotlinPreferences
