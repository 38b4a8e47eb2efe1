import Mathlib.Data.List.Induction
import QueryGate.Files.Tree
import QueryGate.Proofs.NameTable
/-!
Files in a tree that is held in memory: a file that has been written can be read, also after another file has been
written beside it, and writing both again changes nothing. A file stands where nothing or a file stood before, so it is
in the way of no path that led on through directories.
-/
set_option autoImplicit false

namespace QueryGate.Files

/-! ## Names on a path -/

theorem endsWith_slash_iff (s : String) : s.endsWith "/" = true ↔ ['/'] <:+ s.toList := by
  rw [String.endsWith, String.Slice.endsWith_string_iff, String.copy_toSlice]
  rfl

/-- A name without a slash is the only one on its path. -/
theorem names_eq_singleton {name : String} (h : '/' ∉ name.toList) : names name = [name] := by
  rw [names, List.splitOn_eq_singleton h, List.map_singleton, String.ofList_toList]

theorem names_append_slash (xs : List Char) (name : String) {path : String}
    (hpath : path.toList = xs ++ '/' :: name.toList) (h : '/' ∉ name.toList) :
    names path = (xs.splitOn '/').map String.ofList ++ [name] := by
  have hname := names_eq_singleton h
  rw [names] at hname
  rw [names, hpath, List.splitOn_append_cons_self, List.map_append, hname]

/-- A name without a slash is joined to a directory with one slash. -/
theorem joinPath_eq (directory : String) {name : String} (h : '/' ∉ name.toList) :
    joinPath directory name =
      if directory = "" ∨ directory.endsWith "/" then directory ++ name else directory ++ "/" ++ name := by
  refine if_neg fun hslash => h ?_
  exact (String.startsWith_string_iff.1 hslash).subset List.mem_cons_self

/-- The names on a path below a directory: the directory's own, then the one below it. A slash with which the directory
ends stands between the two. -/
theorem names_joinPath {directory name : String} (h : '/' ∉ name.toList) (hdirectory : directory ≠ "") :
    ∃ outer, names (joinPath directory name) = outer ++ [name]
      ∧ (names directory = outer ∨ names directory = outer ++ [""]) := by
  rw [joinPath_eq directory h]
  by_cases hslash : directory.endsWith "/" = true
  · rw [if_pos (.inr hslash)]
    obtain ⟨xs, hxs⟩ := (endsWith_slash_iff directory).1 hslash
    have hjoin : (directory ++ name).toList = xs ++ '/' :: name.toList := by
      rw [String.toList_append, ← hxs, List.append_assoc, List.singleton_append]
    exact ⟨_, names_append_slash xs name hjoin h, .inr (names_append_slash xs "" hxs.symm List.not_mem_nil)⟩
  · rw [if_neg (not_or.2 ⟨hdirectory, hslash⟩)]
    exact ⟨_, names_append_slash directory.toList name (by simp) h, .inl rfl⟩

theorem joinPath_empty (name : String) : joinPath "" name = name := by
  rw [joinPath, if_pos (Or.inl rfl), String.empty_append, ite_self]

/-- A path below a directory continues that of the directory. -/
theorem exists_joinPath_eq_append (directory : String) {name : String} (h : '/' ∉ name.toList) :
    ∃ between, joinPath directory name = directory ++ between ++ name := by
  rw [joinPath_eq directory h]
  split
  · exact ⟨"", by rw [String.append_empty]⟩
  · exact ⟨"/", rfl⟩

/-- Whether a path begins with a slash is seen in its first character. -/
theorem startsWith_slash_append {path : String} (h : path ≠ "") (rest : String) :
    (path ++ rest).startsWith "/" = path.startsWith "/" := by
  refine Bool.eq_iff_iff.2 ?_
  rw [String.startsWith_string_iff, String.startsWith_string_iff, String.toList_append]
  cases hpath : path.toList with
  | nil => exact absurd (String.toList_eq_nil_iff.1 hpath) h
  | cons c cs => exact Iff.of_eq (by simp)

/-- A name that leads on from where it stands. -/
def LeadsOn (name : String) : Prop := staysThere name = false ∧ name ≠ ".."

instance (name : String) : Decidable (LeadsOn name) := inferInstanceAs (Decidable (_ ∧ _))

theorem LeadsOn.ne_empty {name : String} (h : LeadsOn name) : name ≠ "" := by
  rintro rfl
  exact Bool.noConfusion h.1

/-- A path that a file of a name can have: it ends with that name. -/
structure EndsWith (path name : String) : Prop where
  leadsOn : LeadsOn name
  exists_names : ∃ outer, names path = outer ++ [name]

theorem endsWith_joinPath (directory : String) {name : String} (hname : LeadsOn name) (h : '/' ∉ name.toList) :
    EndsWith (joinPath directory name) name := by
  refine ⟨hname, ?_⟩
  by_cases hdirectory : directory = ""
  · subst hdirectory
    refine ⟨[], ?_⟩
    rw [joinPath_empty, names_eq_singleton h, List.nil_append]
  · obtain ⟨outer, houter, -⟩ := names_joinPath h hdirectory
    exact ⟨outer, houter⟩

theorem withoutSlashes_append_blank (outer : List String) :
    withoutSlashes (outer ++ [""]) = withoutSlashes outer := by
  rw [withoutSlashes, List.reverse_append, List.reverse_singleton, List.singleton_append,
    List.dropWhile_cons_of_pos (by decide), withoutSlashes]

theorem withoutSlashes_append {outer : List String} {name : String} (h : name ≠ "") :
    withoutSlashes (outer ++ [name]) = outer ++ [name] := by
  rw [withoutSlashes, List.reverse_append, List.reverse_singleton, List.singleton_append,
    List.dropWhile_cons_of_neg (by simpa using h), List.reverse_cons, List.reverse_reverse]

/-- A path that ends with a name does not end with a slash. -/
theorem EndsWith.endsWith_slash {path name : String} (h : EndsWith path name) : path.endsWith "/" = false := by
  refine Bool.eq_false_iff.2 fun hslash => ?_
  obtain ⟨outer, houter⟩ := h.exists_names
  obtain ⟨xs, hxs⟩ := (endsWith_slash_iff path).1 hslash
  rw [names_append_slash xs "" hxs.symm List.not_mem_nil] at houter
  have hlast := congrArg List.getLast? houter
  rw [List.getLast?_concat, List.getLast?_concat] at hlast
  exact h.leadsOn.ne_empty (Option.some.inj hlast).symm

theorem checkPath_eq_ok_iff (path : String) :
    checkPath path = .ok () ↔ '\x00' ∉ path.toList ∧ path ≠ "" ∧ path.utf8ByteSize ≤ greatestPath := by
  unfold checkPath
  rw [String.contains_char_eq]
  by_cases hnul : '\x00' ∈ path.toList
  · simp [hnul]
  · by_cases hempty : path = ""
    · simp [hempty]
    · by_cases hlong : path.utf8ByteSize > greatestPath
      · simp [hnul, hempty, hlong]
      · simp [hnul, hempty, hlong, Nat.not_lt.1 hlong]

namespace FileTree

variable {t t' : FileTree} {place spot : List String} {name path : String}

/-! ## What stands where -/

/-- What is put somewhere stands there, and nowhere else anything changes. -/
theorem entry?_put (t : FileTree) (e : Entry) (hspot : spot ≠ []) (place : List String) :
    entry? (t.put spot e) place = if place = spot then some e else t.entry? place := by
  unfold entry? put
  by_cases hroot : place = []
  · subst hroot
    rw [if_pos rfl, if_neg (Ne.symm hspot), if_pos rfl]
  · rw [if_neg hroot, if_neg hroot, List.lookup_cons]
    by_cases hplace : place = spot
    · rw [if_pos hplace, beq_iff_eq.2 hplace]
    · rw [if_neg hplace, beq_eq_false_iff_ne.2 hplace]
      exact NameTable.lookup_filter_ne hplace t.entries

/-- The root is a directory. -/
theorem ne_nil_of_entry?_ne (h : t.entry? place ≠ some .directory) : place ≠ [] := by
  rintro rfl
  exact h rfl

/-- What is put at two places in turn stands there as before when it is put there in turn once more. -/
theorem put_put_put (t : FileTree) (e e' : Entry) (h : place ≠ spot) :
    (((t.put place e).put spot e').put place e).put spot e' = (t.put place e).put spot e' := by
  have hother : spot ≠ place := h.symm
  -- what is put again takes the place of what was put, and everything else is left out twice
  simp only [put, List.filter_cons, List.filter_filter, h, hother, ne_eq, not_true_eq_false, not_false_eq_true,
    decide_true, decide_false, if_true, if_false, Bool.false_eq_true]
  have htwice (a : List String × Entry) :
      (decide ¬a.1 = spot && (decide ¬a.1 = place && (decide ¬a.1 = spot && decide ¬a.1 = place)))
        = (decide ¬a.1 = spot && decide ¬a.1 = place) := by
    rw [← Bool.and_assoc, Bool.and_self]
  simp only [htwice]

/-! ## Walks -/

/-- A step leads on from a directory: to itself, out of it or to a place in it. -/
theorem exists_of_follow (h : t.follow place name = .ok spot) :
    t.entry? place = some .directory ∧
      (staysThere name = true ∧ spot = place ∨ name = ".." ∨ LeadsOn name ∧ spot = place ++ [name]) := by
  unfold follow at h
  split at h
  · cases h
  · cases h
  · rename_i hentry
    refine ⟨hentry, ?_⟩
    by_cases hstays : staysThere name = true
    · rw [if_pos hstays] at h
      cases h
      exact .inl ⟨hstays, rfl⟩
    · rw [if_neg hstays] at h
      by_cases hout : name = ".."
      · exact .inr (.inl hout)
      · rw [if_neg hout] at h
        split at h
        · cases h
        · cases h
          exact .inr (.inr ⟨⟨Bool.eq_false_iff.2 hstays, hout⟩, rfl⟩)

theorem follow_eq_self (hentry : t.entry? place = some .directory) (h : staysThere name = true) :
    t.follow place name = .ok place := by
  rw [follow, hentry]
  exact if_pos h

/-- A step that leads on from a directory still does when a file is put where no directory is. -/
theorem follow_put {bytes : ByteArray} (hspot : t.entry? spot ≠ some .directory) {next : List String}
    (h : t.follow place name = .ok next) : (t.put spot (.file bytes)).follow place name = .ok next := by
  obtain ⟨hdirectory, -⟩ := exists_of_follow h
  -- the step only looks at the directory it leads on from, and no file is put there
  have hplace : place ≠ spot := by
    rintro rfl
    exact hspot hdirectory
  rw [← h, follow, follow, entry?_put t _ (ne_nil_of_entry?_ne hspot), if_neg hplace]

/-- So does a walk along several names. -/
theorem foldlM_follow_put {last : List String} {bytes : ByteArray} (hspot : t.entry? spot ≠ some .directory)
    (ns : List String) (h : ns.foldlM t.follow place = .ok last) :
    ns.foldlM (t.put spot (.file bytes)).follow place = .ok last := by
  induction ns generalizing place with
  | nil => exact h
  | cons n ns ih =>
      rw [List.foldlM_cons] at h ⊢
      cases hstep : t.follow place n with
      | error fault =>
          rw [hstep] at h
          cases h
      | ok next =>
          rw [hstep] at h
          rw [follow_put hspot hstep]
          exact ih h

theorem walk_eq_ok_iff : t.walk path = .ok place ↔
    checkPath path = .ok () ∧ (names path).foldlM t.follow (t.start path) = .ok place := by
  unfold walk
  cases checkPath path with
  | error fault => exact ⟨nofun, nofun⟩
  | ok _ => exact ⟨fun h => ⟨rfl, h⟩, And.right⟩

/-- So does a walk along a path. -/
theorem walk_put {bytes : ByteArray} (hspot : t.entry? spot ≠ some .directory) (h : t.walk path = .ok place) :
    (t.put spot (.file bytes)).walk path = .ok place :=
  walk_eq_ok_iff.2 ((walk_eq_ok_iff.1 h).imp_right (foldlM_follow_put hspot _))

/-- A walk along a name more is a walk and a step from where it leads. -/
theorem exists_of_foldlM_follow_concat {ns : List String} (h : (ns ++ [name]).foldlM t.follow place = .ok spot) :
    ∃ inside, ns.foldlM t.follow place = .ok inside ∧ t.follow inside name = .ok spot := by
  rw [List.foldlM_append] at h
  cases hinside : ns.foldlM t.follow place with
  | error fault =>
      rw [hinside] at h
      cases h
  | ok inside =>
      rw [hinside] at h
      exact ⟨inside, rfl, (bind_pure _).symm.trans h⟩

/-- A walk goes the same way if slashes at the end of its path are left out. -/
theorem foldlM_follow_withoutSlashes (ns : List String) (h : ns.foldlM t.follow place = .ok spot) :
    (withoutSlashes ns).foldlM t.follow place = .ok spot := by
  -- from the end, where the blank names are taken away one by one
  induction ns using List.reverseRecOn generalizing spot with
  | nil => exact h
  | append_singleton ns n ih =>
      by_cases hn : n = ""
      · subst hn
        rw [withoutSlashes_append_blank]
        obtain ⟨inside, hinside, hblank⟩ := exists_of_foldlM_follow_concat h
        obtain ⟨-, ⟨-, rfl⟩ | hout | ⟨hleads, -⟩⟩ := exists_of_follow hblank
        · exact ih hinside
        · exact absurd hout (by decide)
        · exact absurd rfl hleads.ne_empty
      · rw [withoutSlashes_append hn]
        exact h

/-- A walk along a path that ends with a name ends at a place of that name, in a directory. -/
theorem getLast?_of_walk (hpath : EndsWith path name) (h : t.walk path = .ok place) :
    place.getLast? = some name := by
  obtain ⟨outer, houter⟩ := hpath.exists_names
  have hfollow := (walk_eq_ok_iff.1 h).2
  rw [houter] at hfollow
  obtain ⟨inside, -, hlast⟩ := exists_of_foldlM_follow_concat hfollow
  obtain ⟨-, ⟨hstays, -⟩ | hout | ⟨-, rfl⟩⟩ := exists_of_follow hlast
  · exact absurd hstays (by rw [hpath.leadsOn.1]; decide)
  · exact absurd hout hpath.leadsOn.2
  · exact List.getLast?_concat

/-- From the root a name leads to its place there. -/
theorem walk_of_leadsOn (hroot : t.workingDirectory = []) (hname : LeadsOn name)
    (h : '/' ∉ name.toList ∧ '\x00' ∉ name.toList) (hlong : name.utf8ByteSize ≤ greatestName) :
    t.walk name = .ok [name] := by
  refine walk_eq_ok_iff.2 ⟨(checkPath_eq_ok_iff name).2 ⟨h.2, hname.ne_empty, Nat.le_trans hlong (by decide)⟩, ?_⟩
  have hstart : t.start name = [] := by rw [start, hroot, ite_self]
  have hfollow : t.follow [] name = .ok [name] := by
    -- the root is always a directory
    have hentry : t.entry? [] = some .directory := rfl
    rw [follow, hentry]
    simp only [hname.1, hname.2, Nat.not_lt.2 hlong, Bool.false_eq_true, if_false, List.nil_append]
  rw [names_eq_singleton h.1, hstart, List.foldlM_cons, hfollow]
  rfl

theorem walkWithoutSlashes_eq (hpath : EndsWith path name) : t.walkWithoutSlashes path = t.walk path := by
  obtain ⟨outer, houter⟩ := hpath.exists_names
  rw [walkWithoutSlashes, walk, houter, withoutSlashes_append hpath.leadsOn.ne_empty]

/-! ## Directories -/

theorem run_change (f : FileTree → Except FileFault FileTree) (t : FileTree) :
    (change f).run t = match f t with
      | .ok t' => (.ok (), t')
      | .error fault => (.error fault, t) := by
  rw [change, StateT.run_bind, StateT.run_get]
  cases hf : f t with
  | ok t' => simp only [pure_bind, hf]; rfl
  | error fault => simp only [pure_bind, hf]; rfl

/-- If a walk leads below a directory, a walk leads to the directory. -/
theorem exists_of_walk_joinPath {directory : String} (hdirectory : directory ≠ "") (h : '/' ∉ name.toList)
    (hwalk : t.walk (joinPath directory name) = .ok place) :
    ∃ inside, (names directory).foldlM t.follow (t.start directory) = .ok inside
      ∧ t.entry? inside = some .directory := by
  obtain ⟨outer, houter, hnames⟩ := names_joinPath h hdirectory
  obtain ⟨between, hbetween⟩ := exists_joinPath_eq_append directory h
  have hfollow := (walk_eq_ok_iff.1 hwalk).2
  rw [houter, start, hbetween, String.append_assoc, startsWith_slash_append hdirectory, ← start] at hfollow
  obtain ⟨inside, hinside, hlast⟩ := exists_of_foldlM_follow_concat hfollow
  have hentry := (exists_of_follow hlast).1
  refine ⟨inside, ?_, hentry⟩
  rcases hnames with hnames | hnames
  · rw [hnames, hinside]
  · rw [hnames, List.foldlM_append, hinside]
    exact (bind_pure _).trans (follow_eq_self hentry rfl)

section Below

variable {directory : String} (h : '/' ∉ name.toList) (hwalk : t.walk (joinPath directory name) = .ok place)
include h hwalk

theorem le_greatestPath_of_walk_joinPath :
    '\x00' ∉ directory.toList ∧ directory.utf8ByteSize + name.utf8ByteSize ≤ greatestPath := by
  obtain ⟨between, hbetween⟩ := exists_joinPath_eq_append directory h
  obtain ⟨hnul, -, hsize⟩ := (checkPath_eq_ok_iff _).1 (walk_eq_ok_iff.1 hwalk).1
  refine ⟨fun hmem => hnul (by simp [hbetween, hmem]), ?_⟩
  rw [hbetween, String.utf8ByteSize_append, String.utf8ByteSize_append] at hsize
  omega

theorem makeDirectory_of_walk_joinPath (hdirectory : directory ≠ "") :
    t.makeDirectory directory = .error .alreadyThere := by
  obtain ⟨inside, hinside, hentry⟩ := exists_of_walk_joinPath hdirectory h hwalk
  obtain ⟨hnul, hsize⟩ := le_greatestPath_of_walk_joinPath h hwalk
  have hplace : t.walkWithoutSlashes directory = .ok inside := by
    rw [walkWithoutSlashes, (checkPath_eq_ok_iff _).2 ⟨hnul, hdirectory, by omega⟩]
    exact foldlM_follow_withoutSlashes _ hinside
  rw [makeDirectory, hplace]
  simp only [bind, Except.bind, hentry]

variable (hlong : 2 ≤ name.utf8ByteSize)
include hlong

theorem isThere_of_walk_joinPath (hdirectory : directory ≠ "") : t.isThere (directory ++ "/.") = .ok true := by
  obtain ⟨inside, hinside, hentry⟩ := exists_of_walk_joinPath hdirectory h hwalk
  obtain ⟨hnul, hsize⟩ := le_greatestPath_of_walk_joinPath h hwalk
  -- a dot is no longer than the name, so this path is not too long either
  have hdot : (directory ++ "/.").utf8ByteSize = directory.utf8ByteSize + 2 := String.utf8ByteSize_append
  have hnames : names (directory ++ "/.") = names directory ++ ["."] :=
    names_append_slash directory.toList "." (by rw [String.toList_append]; rfl) (by decide)
  have hplace : t.walk (directory ++ "/.") = .ok inside := by
    refine walk_eq_ok_iff.2 ⟨(checkPath_eq_ok_iff _).2 ⟨by simpa using hnul, by simp, by omega⟩, ?_⟩
    rw [hnames, start, startsWith_slash_append hdirectory, ← start, List.foldlM_append, hinside]
    exact (bind_pure _).trans (follow_eq_self hentry rfl)
  rw [isThere, find, hplace]
  simp only [bind, Except.bind, hentry]

theorem run_ensureDirectory (hdirectory : directory ≠ "") :
    (storage.ensureDirectory directory).run t = (.ok (), t) := by
  have hmake : (storage.makeDirectory directory).run t = (.error .alreadyThere, t) := by
    rw [storage, run_change, makeDirectory_of_walk_joinPath h hwalk hdirectory]
  have hthere : (storage.isThere (directory ++ "/.")).run t = (.ok true, t) :=
    congrArg (fun result => (result, t)) (isThere_of_walk_joinPath h hwalk hlong hdirectory)
  have hisDirectory : (storage.isDirectory directory).run t = (true, t) := by
    rw [Storage.isDirectory, StateT.run_bind, hthere]
    rfl
  rw [Storage.ensureDirectory, StateT.run_bind, hmake]
  refine (StateT.run_bind _ _ t).trans ?_
  rw [hisDirectory]
  rfl

/-- A directory below which a walk leads is there, so that none has to be made. -/
theorem run_makeDirectories : (storage.makeDirectories directory).run t = (.ok (), t) := by
  rw [Storage.makeDirectories]
  split
  · rfl
  · rename_i hdirectory
    have hensure := run_ensureDirectory h hwalk hlong hdirectory
    cases enclosing directory with
    | nil => exact hensure
    | cons outer rest =>
        rw [Storage.ensureWithin, StateT.run_bind, hensure]
        rfl

end Below

/-! ## Files -/

/-- A file is written where its path leads, unless a directory stands there. -/
theorem writeBytes_eq_ok_iff (hpath : EndsWith path name) {bytes : ByteArray} :
    t.writeBytes path bytes = .ok t' ↔
      ∃ place, t.walk path = .ok place ∧ t.entry? place ≠ some .directory ∧ t.put place (.file bytes) = t' := by
  unfold writeBytes
  rw [walkWithoutSlashes_eq hpath, hpath.endsWith_slash]
  cases hwalk : t.walk path with
  | error fault => exact ⟨nofun, nofun⟩
  | ok place =>
      simp only [bind, Except.bind, Except.ok.injEq, exists_eq_left', Bool.false_eq_true, if_false]
      split
      · rename_i hentry
        exact ⟨nofun, fun h => absurd hentry h.1⟩
      · rename_i hentry
        exact ⟨fun h => ⟨hentry, Except.ok.inj h⟩, fun h => congrArg _ h.2⟩

/-- A file can be written at the root unless a directory of its name stands there. -/
theorem writeBytes_of_leadsOn (hroot : t.workingDirectory = []) (hname : LeadsOn name)
    (h : '/' ∉ name.toList ∧ '\x00' ∉ name.toList) (hlong : name.utf8ByteSize ≤ greatestName)
    (hfree : t.entry? [name] ≠ some .directory) (bytes : ByteArray) :
    t.writeBytes (joinPath "" name) bytes = .ok (t.put [name] (.file bytes)) := by
  refine (writeBytes_eq_ok_iff (endsWith_joinPath "" hname h.1)).2 ⟨[name], ?_, hfree, rfl⟩
  rw [joinPath_empty, walk_of_leadsOn hroot hname h hlong]

/-- Two files of different names that are written one after the other: each stands where its path leads, and the two
places are apart. -/
theorem exists_of_writeBytes_writeBytes {beside name' : String} {bytes bytes' : ByteArray} {written : FileTree}
    (hpath : EndsWith path name) (hbeside : EndsWith beside name') (hne : name ≠ name')
    (h : t.writeBytes path bytes = .ok t') (h' : t'.writeBytes beside bytes' = .ok written) :
    ∃ place spot, place ≠ spot ∧ place ≠ [] ∧ spot ≠ [] ∧ written.walk path = .ok place
      ∧ written.walk beside = .ok spot ∧ (t.put place (.file bytes)).put spot (.file bytes') = written := by
  obtain ⟨place, hwalk, hplace, rfl⟩ := (writeBytes_eq_ok_iff hpath).1 h
  obtain ⟨spot, hwalk', hspot, rfl⟩ := (writeBytes_eq_ok_iff hbeside).1 h'
  refine ⟨place, spot, ?_, ne_nil_of_entry?_ne hplace, ne_nil_of_entry?_ne hspot,
    walk_put hspot (walk_put hplace hwalk), walk_put hspot hwalk', rfl⟩
  -- at one place the two files would have one name
  rintro rfl
  exact hne (Option.some.inj ((getLast?_of_walk hpath hwalk).symm.trans (getLast?_of_walk hbeside hwalk')))

/-- The bytes of a text are the text again. -/
theorem fromUTF8?_toUTF8 (s : String) : String.fromUTF8? s.toUTF8 = some s := by
  simp [String.fromUTF8?, s.isValidUTF8, String.fromUTF8]

section TwoFiles

variable {beside name' : String} {text : String} {bytes' : ByteArray} {written : FileTree}

/-- A text that has been written, and then another file beside it, can be read. -/
theorem readText_of_writeBytes (hpath : EndsWith path name) (hbeside : EndsWith beside name') (hne : name ≠ name')
    (h : t.writeBytes path text.toUTF8 = .ok t') (h' : t'.writeBytes beside bytes' = .ok written) :
    written.readText path = .ok text := by
  obtain ⟨place, spot, hapart, hplace, hspot, hwalk, -, hwritten⟩ :=
    exists_of_writeBytes_writeBytes hpath hbeside hne h h'
  have hentry : written.entry? place = some (.file text.toUTF8) := by
    rw [← hwritten, entry?_put _ _ hspot, if_neg hapart, entry?_put _ _ hplace, if_pos rfl]
  rw [readText, find, hwalk]
  simp only [bind, Except.bind, hentry, fromUTF8?_toUTF8]

/-- Writing both once more changes nothing. -/
theorem exists_writeBytes_writeBytes {bytes : ByteArray} (hpath : EndsWith path name) (hbeside : EndsWith beside name')
    (hne : name ≠ name') (h : t.writeBytes path bytes = .ok t') (h' : t'.writeBytes beside bytes' = .ok written) :
    ∃ between, written.writeBytes path bytes = .ok between ∧ between.writeBytes beside bytes' = .ok written := by
  obtain ⟨place, spot, hapart, hplace, hspot, hwalk, hwalk', hwritten⟩ :=
    exists_of_writeBytes_writeBytes hpath hbeside hne h h'
  have hfile : written.entry? place ≠ some .directory := by
    rw [← hwritten, entry?_put _ _ hspot, if_neg hapart, entry?_put _ _ hplace, if_pos rfl]
    exact fun hentry => Entry.noConfusion (Option.some.inj hentry)
  have hfile' : entry? (written.put place (.file bytes)) spot ≠ some .directory := by
    rw [entry?_put _ _ hplace, if_neg hapart.symm, ← hwritten, entry?_put _ _ hspot, if_pos rfl]
    exact fun hentry => Entry.noConfusion (Option.some.inj hentry)
  refine ⟨written.put place (.file bytes), (writeBytes_eq_ok_iff hpath).2 ⟨place, hwalk, hfile, rfl⟩,
    (writeBytes_eq_ok_iff hbeside).2 ⟨spot, walk_put hfile hwalk', hfile', ?_⟩⟩
  rw [← hwritten, put_put_put t _ _ hapart]

end TwoFiles

end FileTree

end QueryGate.Files
