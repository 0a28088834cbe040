import KotlinPreferences.Output.Path
import KotlinPreferences.Proofs.Text.Fields
import KotlinPreferences.Proofs.Text.FileName

/-!
# Where the paths of files lead

The path of a file is read segment by segment. The parts of a package hold no points, so none of
its segments leads upwards; the name of a file is written as it is given, and may lead anywhere.

* `Path.segments_intercalate`: the segments of a joined path;
* `Path.packageSegments`: the folders of a package, `Path.resolve_relativePath`: where the path of a
  file leads, given these;
* `Path.Tidy`: packages and names without slashes, and a plain extension;
* `Path.resolve_eq_iff_of_tidy`: paths of such files lead to the same place only if the files agree.
-/

namespace KotlinPreferences

namespace Path

variable {root place : Location} {path package name extension segment part : Text}

/-! ### Segments -/

theorem segments_append (first second : Text) :
    segments (first ++ "/" ++ second) = segments first ++ segments second := by
  have htext : (first ++ "/" ++ second).toList =
      first.toList ++ .scalar '/' :: second.toList := by simp
  rw [segments, parts, htext, Text.fields_append, List.filter_append, List.map_append,
    List.map_append]
  rfl

theorem segments_intercalate (paths : List Text) :
    segments (Text.intercalate "/" paths) = paths.flatMap segments := by
  induction paths with
  | nil => rfl
  | cons path rest ih =>
    cases rest with
    | nil => rw [Text.intercalate_singleton, List.flatMap_singleton]
    | cons next further =>
      rw [Text.intercalate_cons_cons, segments_append, ih]
      rfl

/-- A segment is the name on the disk of a part that is made of characters of the path. -/
theorem of_mem_segments (h : segment ∈ segments path) :
    ∃ part : Text, part.onDisk = segment ∧ ∀ c ∈ part.toList, c ∈ path.toList := by
  obtain ⟨part, hpart, rfl⟩ := List.mem_map.1 h
  obtain ⟨field, hfield, rfl⟩ := List.mem_map.1 hpart
  exact ⟨_, rfl, (Text.of_mem_fields (List.mem_filter.1 hfield).1).2⟩

/-- A name without slashes is its only segment, if it names something. -/
theorem segments_of_plain (hslash : .scalar '/' ∉ path.toList) (hempty : path ≠ "")
    (hpoint : path ≠ ".") : segments path = [path.onDisk] := by
  have hlist : path.toList ≠ [] := fun h => hempty (Text.toList_inj.1 h)
  have hlist' : path.toList ≠ [CodePoint.scalar '.'] := fun h => hpoint (Text.toList_inj.1 h)
  rw [segments, parts, Text.fields_of_notMem hslash]
  simp [hlist, hlist', -Text.toList_eq_nil_iff]

/-- Segments that do not lead upwards lead on from where they start. -/
theorem foldl_step_of_ne {segments : List Text} (h : ∀ segment ∈ segments, segment ≠ "..") :
    segments.foldl step place = place ++ segments := by
  induction segments generalizing place with
  | nil => simp
  | cons segment rest ih =>
    rw [List.forall_mem_cons] at h
    rw [List.foldl_cons, step_of_ne h.1, ih h.2, List.append_assoc]
    rfl

/-! ### Packages -/

/-- The folders of a package. A part of a package name may hold slashes. -/
def packageSegments (package : Text) : List Text := (packageParts package).flatMap segments

theorem of_mem_packageParts (h : part ∈ packageParts package) :
    .scalar '.' ∉ part.toList ∧ (∀ c ∈ part.toList, c ∈ package.toList) ∧ part ≠ "" := by
  obtain ⟨field, hfield, rfl⟩ := List.mem_map.1 h
  obtain ⟨hmem, hnonempty⟩ := List.mem_filter.1 hfield
  obtain ⟨hpoint, hall⟩ := Text.of_mem_fields hmem
  refine ⟨by simpa using hpoint, by simpa using hall, ?_⟩
  intro hempty
  have hfield : field = [] := by simpa using congrArg Text.toList hempty
  simp [hfield] at hnonempty

/-- The parts of a Unicode package name are Unicode. -/
theorem isUnicode_of_mem_packageParts (hunicode : package.isUnicode = true)
    (h : part ∈ packageParts package) : part.isUnicode = true := by
  rw [Text.isUnicode, List.all_eq_true] at hunicode ⊢
  exact fun c hc => hunicode c ((of_mem_packageParts h).2.1 c hc)

/-- The path of a file is Unicode, if its parts are. -/
theorem isUnicode_relativePath {name extension : Text} (hpackage : package.isUnicode = true)
    (hname : name.isUnicode = true) (hextension : extension.isUnicode = true) :
    (relativePath package name extension).isUnicode = true := by
  refine Text.isUnicode_intercalate (Text.isUnicode_ofString _) fun part hpart => ?_
  simp only [List.cons_append, List.mem_cons, List.mem_append, List.not_mem_nil, or_false] at hpart
  rcases hpart with rfl | hpart | rfl
  · exact Text.isUnicode_ofString _
  · exact isUnicode_of_mem_packageParts hpackage hpart
  · simp [hname, hextension]

/-- No folder of a package leads upwards, since there are no points in it. -/
theorem ne_up_of_mem_packageSegments (h : segment ∈ packageSegments package) : segment ≠ ".." := by
  obtain ⟨part, hpart, hsegment⟩ := List.mem_flatMap.1 h
  obtain ⟨name, rfl, hname⟩ := of_mem_segments hsegment
  rw [ne_eq, Text.onDisk_eq_up_iff]
  rintro rfl
  exact (of_mem_packageParts hpart).1 (hname _ (by decide))

/-- Without slashes the parts of a package are its folders. -/
theorem packageSegments_of_plain (h : .scalar '/' ∉ package.toList) :
    packageSegments package = (packageParts package).map Text.onDisk := by
  have hparts : ∀ part ∈ packageParts package, segments part = [part.onDisk] := by
    intro part hpart
    obtain ⟨hpoint, hall, hempty⟩ := of_mem_packageParts hpart
    refine segments_of_plain (fun hslash => h (hall _ hslash)) hempty ?_
    rintro rfl
    exact hpoint (by decide)
  rw [packageSegments, List.flatMap_congr hparts, List.map_eq_flatMap]

/-! ### Files -/

/-- The place to which the path of a file leads: from the folder of its package along its name. -/
theorem resolve_relativePath (root : Location) (package name extension : Text) :
    resolve root (relativePath package name extension) =
      (segments (name ++ "." ++ extension)).foldl step
        (root ++ ("kotlin" : Text) :: packageSegments package) := by
  have hkotlin : segments "kotlin" = ["kotlin"] := by decide
  have hfolder : ∀ segment ∈ ("kotlin" : Text) :: packageSegments package, segment ≠ ".." :=
    List.forall_mem_cons.2 ⟨by decide, fun segment => ne_up_of_mem_packageSegments⟩
  rw [resolve, relativePath, segments_intercalate, List.flatMap_append, List.flatMap_cons, hkotlin,
    List.flatMap_singleton, List.foldl_append]
  show (segments (name ++ "." ++ extension)).foldl step
    ((("kotlin" : Text) :: packageSegments package).foldl step root) = _
  rw [foldl_step_of_ne hfolder]

/-- An extension that cannot be taken for a part of the name in front of it. -/
structure PlainExtension (extension : Text) : Prop where
  nonempty : extension ≠ ""
  noPoint : .scalar '.' ∉ extension.toList
  noSlash : .scalar '/' ∉ extension.toList

theorem plainExtension_kt : PlainExtension "kt" := ⟨by decide, by decide, by decide⟩

/-- A file whose name does not lead into other folders, and whose names on the disk are those that
it was given. -/
structure Tidy (package name extension : Text) : Prop where
  package_noSlash : .scalar '/' ∉ package.toList
  name_noSlash : .scalar '/' ∉ name.toList
  package_unicode : package.isUnicode = true
  name_unicode : name.isUnicode = true
  extension_unicode : extension.isUnicode = true
  extension : PlainExtension extension

/-- The name of a file with a plain extension names something, and does not lead upwards. -/
theorem fileName_ne (h : PlainExtension extension) (name : Text) {special : Text}
    (hspecial : ∀ c ∈ special.toList, c = '.') : name ++ "." ++ extension ≠ special := by
  intro heq
  obtain ⟨c, hc⟩ := List.exists_mem_of_ne_nil extension.toList
    fun hnil => h.nonempty (Text.toList_inj.1 hnil)
  have hmem : c ∈ special.toList := by
    rw [← heq, Text.toList_append]
    exact List.mem_append_right _ hc
  exact h.noPoint (hspecial c hmem ▸ hc)

/-- A name without slashes and its extension make one segment, which does not lead upwards. -/
theorem foldl_step_fileName (h : PlainExtension extension) (hslash : .scalar '/' ∉ name.toList)
    (place : Location) :
    (segments (name ++ "." ++ extension)).foldl step place =
      place ++ [(name ++ "." ++ extension).onDisk] := by
  have hplain : .scalar '/' ∉ (name ++ "." ++ extension).toList := by simp [hslash, h.noSlash]
  have hup : (name ++ "." ++ extension).onDisk ≠ ".." := fun heq =>
    fileName_ne h name (by simp) (Text.onDisk_eq_up_iff.1 heq)
  rw [segments_of_plain hplain (fileName_ne h name (by simp)) (fileName_ne h name (by simp)),
    List.foldl_cons, List.foldl_nil, step_of_ne hup]

/-- The path of a tidy file leads to the file of that name in the folder of its package. -/
theorem resolve_of_tidy (h : Tidy package name extension) (root : Location) :
    resolve root (relativePath package name extension) =
      root ++ ("kotlin" : Text) :: packageParts package ++ [name ++ "." ++ extension] := by
  have hname : (name ++ "." ++ extension).onDisk = name ++ "." ++ extension :=
    Text.onDisk_of_isUnicode (by simp [h.name_unicode, h.extension_unicode])
  have hparts : (packageParts package).map Text.onDisk = packageParts package :=
    (List.map_congr_left fun part hpart =>
      Text.onDisk_of_isUnicode (isUnicode_of_mem_packageParts h.package_unicode hpart)).trans
      (List.map_id _)
  rw [resolve_relativePath, packageSegments_of_plain h.package_noSlash, hparts,
    foldl_step_fileName h.extension h.name_noSlash, hname]

/-- A text is cut at its last point in one way only. -/
theorem fileName_inj {name' extension' : Text} (h : PlainExtension extension)
    (h' : PlainExtension extension')
    (heq : name ++ "." ++ extension = name' ++ "." ++ extension') :
    name = name' ∧ extension = extension' := by
  have hlist : name.toList ++ .scalar '.' :: extension.toList =
      name'.toList ++ .scalar '.' :: extension'.toList := by
    simpa using congrArg Text.toList heq
  rcases List.append_eq_append_iff.1 hlist with ⟨more, hname, hrest⟩ | ⟨more, hname, hrest⟩
  · cases more with
    | nil =>
      rw [List.append_nil] at hname
      rw [List.nil_append, List.cons.injEq] at hrest
      exact ⟨(Text.toList_inj.1 hname).symm, Text.toList_inj.1 hrest.2⟩
    | cons c rest =>
      -- the second point would stand in the first extension
      rw [List.cons_append, List.cons.injEq] at hrest
      exact absurd (hrest.2 ▸ List.mem_append_right _ List.mem_cons_self) h.noPoint
  · cases more with
    | nil =>
      rw [List.append_nil] at hname
      rw [List.nil_append, List.cons.injEq] at hrest
      exact ⟨Text.toList_inj.1 hname, (Text.toList_inj.1 hrest.2).symm⟩
    | cons c rest =>
      rw [List.cons_append, List.cons.injEq] at hrest
      exact absurd (hrest.2 ▸ List.mem_append_right _ List.mem_cons_self) h'.noPoint

/-- **The paths of tidy files lead to the same place only if the files agree**: in the parts of
their packages, in their names and in their extensions. -/
theorem resolve_eq_iff_of_tidy {package' name' extension' : Text}
    (h : Tidy package name extension) (h' : Tidy package' name' extension') (root : Location) :
    resolve root (relativePath package name extension) =
        resolve root (relativePath package' name' extension') ↔
      packageParts package = packageParts package' ∧ name = name' ∧ extension = extension' := by
  rw [resolve_of_tidy h, resolve_of_tidy h']
  constructor
  · intro heq
    obtain ⟨hfolder, hfile⟩ := List.append_inj' heq rfl
    rw [List.append_cancel_left_eq, List.cons.injEq] at hfolder
    exact ⟨hfolder.2, fileName_inj h.extension h'.extension (List.singleton_inj.1 hfile)⟩
  · rintro ⟨hparts, rfl, rfl⟩
    rw [hparts]

/-- A package name without empty parts. -/
def Tight (package : Text) : Prop := Text.intercalate "." (packageParts package) = package

instance (package : Text) : Decidable (Tight package) :=
  inferInstanceAs (Decidable (Text.intercalate "." (packageParts package) = package))

theorem eq_of_packageParts {package' : Text} (h : Tight package) (h' : Tight package')
    (heq : packageParts package = packageParts package') : package = package' := by
  rw [← h, ← h', heq]

end Path

end KotlinPreferences
