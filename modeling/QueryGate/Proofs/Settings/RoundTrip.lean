import QueryGate.Proofs.Contract.Document
import QueryGate.Proofs.Files.Tree
import QueryGate.Settings.Directory
/-!
Configurations are read back from the texts that are written for them, and from the directories that they are written
into. Settings of the pool that are standard are left out, and reading puts the standard ones in; a limit that is missing
is written as null, so that it is not taken for the standard one.
-/
set_option autoImplicit false

namespace QueryGate.Settings

open Files Json

namespace PoolSettings

theorem readsBack_seconds (levels : Nat) (limit : Option UInt64) :
    (Shape.optional Shape.word64).ReadsBack levels limit (seconds limit) := by
  cases limit with
  | none => exact Shape.readsBack_optional_none _ levels
  | some n => exact (Shape.readsBack_word64 levels n).optional_some (by simp)

theorem readsBack (s : PoolSettings) : shape.ReadsBack 1 s s.toTree :=
  Shape.Fills.readsBack
    (.field rfl rfl (Shape.readsBack_word32 0 s.maxConnections)
      (.field rfl rfl (Shape.readsBack_word64 0 s.poolTimeout)
        (.field rfl rfl (readsBack_seconds 0 s.idleTimeout)
          (.field rfl rfl (readsBack_seconds 0 s.connectionLifetime) (.done _))))) rfl

end PoolSettings

namespace Secret

theorem readsBack (s : Secret) : shape.ReadsBack 1 s s.toTree := by
  cases s with
  | plain value =>
      refine ⟨.string value, ?_⟩
      rintro depth d - ⟨⟩
      rfl
  | inVariable name =>
      -- the object is read as a whole before it is judged, so its only member has to be taken apart here
      refine ⟨.object (List.forall_mem_singleton.2 (.string name)), fun depth d hdepth hd => ?_⟩
      cases hd with
      | object start members_show =>
          cases members_show with
          | member _ _ _ settled member_shows rest_shows =>
              cases member_shows
              cases rest_shows
              have hopen : ¬depth ≤ 1 := by omega
              simp only [shape, if_neg hopen]
              rfl

end Secret

namespace Configuration

/-- A value that is left out because it is standard is the standard one. -/
theorem getD_ite_eq {α : Type} [DecidableEq α] (a standard : α) :
    (if a = standard then none else some a).getD standard = a := by
  by_cases h : a = standard
  · rw [if_pos h, Option.getD_none, h]
  · rw [if_neg h, Option.getD_some]

/-- The document of a configuration, its members from the first to the last. -/
theorem toTree_eq (c : Configuration) :
    c.toTree = .object (("version", .number (.natural c.version.toNat)) :: ("connectionUri", c.connection.toTree) ::
      (Contract.optionalMember "poolSettings"
          ((if c.pool = .standard then none else some c.pool).map PoolSettings.toTree)
        ++ [("queryTimeoutMs", .number (.natural c.queryTimeout.toNat)),
          ("contract", Contract.toTree c.contract)])) := by
  rw [← Contract.ite_none_map _ c.pool PoolSettings.toTree, toTree]
  simp only [List.cons_append, List.nil_append]

/-- A configuration is read back from its tree. -/
theorem readsBack (c : Configuration) : shape.ReadsBack 6 c c.toTree := by
  have hsecret := c.connection.readsBack.mono (by decide : 1 ≤ 5)
  have hpool (pool : PoolSettings) := pool.readsBack.mono (by decide : 1 ≤ 5)
  rw [c.toTree_eq]
  -- settings that are left out are the standard ones, which is what the draft is finished with
  refine Shape.Fills.readsBack
    (.field rfl rfl (Shape.readsBack_word32 5 c.version)
      (.field rfl rfl hsecret
        (Contract.fills_optionalMember (fun x => Draft.mk (some c.version) (some c.connection) x none none) rfl rfl
          (fun _ => rfl) hpool
          (.field rfl rfl (Shape.readsBack_word64 5 c.queryTimeout)
            (.field rfl rfl (Contract.readsBack c.contract) (.done _)))))) ?_
  simp only [Draft.finish, Contract.required, bind, Except.bind, Option.map_id', Option.getD_some, getD_ite_eq]

/-- The text of a configuration is read as the configuration, whatever its version. -/
theorem ofText_toFile (c : Configuration) : ofText c.toFile = .ok c :=
  c.readsBack.readText_eq (by decide)

/-- So it is read from any file, if it has the version that is read. -/
theorem ofFile_toFile {c : Configuration} (hversion : c.version = currentVersion) (path : String) :
    ofFile path c.toFile = .ok c := by
  rw [ofFile, ofText_toFile]
  exact if_pos hversion

end Configuration

/-! ## Directories -/

theorem not_mem_configurationFile : '/' ∉ configurationFile.toList := by decide

theorem endsWith_configurationFile (directory : String) :
    EndsWith (joinPath directory configurationFile) configurationFile :=
  endsWith_joinPath directory (by decide) not_mem_configurationFile

theorem endsWith_schemaFile (directory : String) : EndsWith (joinPath directory schemaFile) schemaFile :=
  endsWith_joinPath directory (by decide) (by decide)

variable {directory : String} {c : Configuration} {t written : FileTree}

/-- Of two steps the second is taken after the first, if that succeeds. -/
theorem run_bind_eq_ok_iff (x : StateM FileTree (Except FileFault Unit))
    (rest : ExceptT FileFault (StateM FileTree) Unit) :
    (ExceptT.mk x >>= fun _ => rest).run.run t = (.ok (), written) ↔
      ∃ made, x.run t = (.ok (), made) ∧ rest.run.run made = (.ok (), written) := by
  rw [ExceptT.run_bind, ExceptT.run_mk, StateT.run_bind]
  obtain ⟨result, made⟩ := x.run t
  cases result with
  | error fault =>
      -- a first step that fails ends the whole
      refine ⟨fun h => ?_, fun ⟨_, h, _⟩ => ?_⟩
      · cases congrArg Prod.fst h
      · cases congrArg Prod.fst h
  | ok _ =>
      refine ⟨fun h => ⟨made, rfl, h⟩, fun ⟨made', h, hrest⟩ => ?_⟩
      cases congrArg Prod.snd h
      exact hrest

theorem run_writeText_eq_ok_iff (path text : String) :
    (FileTree.storage.writeText path text).run t = (.ok (), written) ↔ t.writeBytes path text.toUTF8 = .ok written := by
  rw [FileTree.storage, FileTree.run_change]
  cases t.writeBytes path text.toUTF8 with
  | error fault =>
      refine ⟨fun h => ?_, fun h => ?_⟩
      · cases congrArg Prod.fst h
      · cases h
  | ok t' =>
      exact ⟨fun h => congrArg Except.ok (congrArg Prod.snd h), fun h => congrArg (Except.ok (), ·) (Except.ok.inj h)⟩

/-- What is done when a configuration is written: its directory is made, and then the two files. -/
theorem writeDirectory_eq_ok_iff : (writeDirectory FileTree.storage directory c).run t = (.ok (), written) ↔
    ∃ made between, (FileTree.storage.makeDirectories directory).run t = (.ok (), made)
      ∧ made.writeBytes (joinPath directory configurationFile) c.toFile.toUTF8 = .ok between
      ∧ between.writeBytes (joinPath directory schemaFile) JsonSchema.file.toUTF8 = .ok written := by
  rw [writeDirectory, run_bind_eq_ok_iff]
  refine exists_congr fun made => ?_
  rw [run_bind_eq_ok_iff, ← exists_and_left]
  refine exists_congr fun between => and_congr_right fun _ => ?_
  rw [run_writeText_eq_ok_iff, ExceptT.run_mk, run_writeText_eq_ok_iff]

/-- Where nothing is yet, any configuration can be written. -/
theorem exists_writeDirectory (c : Configuration) :
    ∃ written, (writeDirectory FileTree.storage "" c).run (FileTree.empty []) = (.ok (), written) := by
  have hfree (name : String) : FileTree.entry? (.empty []) [name] ≠ some .directory := nofun
  have hfile := FileTree.writeBytes_of_leadsOn rfl (by decide) (by decide) (by decide) (hfree configurationFile)
    c.toFile.toUTF8
  have hfree' : FileTree.entry? ((FileTree.empty []).put [configurationFile] (.file c.toFile.toUTF8)) [schemaFile]
      ≠ some .directory := by
    rw [FileTree.entry?_put _ _ (List.cons_ne_nil _ _), if_neg (by decide)]
    exact hfree schemaFile
  have hschema := FileTree.writeBytes_of_leadsOn rfl (by decide) (by decide) (by decide) hfree' JsonSchema.file.toUTF8
  exact ⟨_, writeDirectory_eq_ok_iff.2 ⟨FileTree.empty [], _, rfl, hfile, hschema⟩⟩

/-- A configuration that has been written into a directory is read from it, and writing what is read once more changes
nothing. -/
theorem readDirectory_writeDirectory (c : Configuration) (hversion : c.version = Configuration.currentVersion) :
    (∀ path, Configuration.ofFile path c.toFile = .ok c) ∧
      ∀ (directory : String) (t written : FileTree),
        (writeDirectory FileTree.storage directory c).run t = (.ok (), written) →
          (readDirectory FileTree.storage directory).run written = (.ok c, written)
            ∧ (writeDirectory FileTree.storage directory c).run written = (.ok (), written) := by
  refine ⟨Configuration.ofFile_toFile hversion, fun directory t written hwritten => ?_⟩
  obtain ⟨made, between, -, hfile, hschema⟩ := writeDirectory_eq_ok_iff.1 hwritten
  have hpath := endsWith_configurationFile directory
  have hbeside := endsWith_schemaFile directory
  have hne : configurationFile ≠ schemaFile := by decide
  constructor
  · have htext := FileTree.readText_of_writeBytes hpath hbeside hne hfile hschema
    have hread : (FileTree.storage.readText (joinPath directory configurationFile)).run written
        = (.ok c.toFile, written) :=
      congrArg (fun result => (result, written)) htext
    rw [readDirectory, StateT.run_bind, hread]
    exact congrArg (fun result => (result, written)) (Configuration.ofFile_toFile hversion _)
  · -- the directory is there already, and both files are put where they stand
    obtain ⟨place, spot, -, -, -, hwalk, -, -⟩ :=
      FileTree.exists_of_writeBytes_writeBytes hpath hbeside hne hfile hschema
    have hmade := FileTree.run_makeDirectories not_mem_configurationFile hwalk (by decide)
    obtain ⟨again, hfile', hschema'⟩ := FileTree.exists_writeBytes_writeBytes hpath hbeside hne hfile hschema
    exact writeDirectory_eq_ok_iff.2 ⟨written, again, hmade, hfile', hschema'⟩

/-- A configuration that says the address itself, sets no limits of time on connections and takes the contract to begin
with. -/
def unlimited : Configuration :=
  { Configuration.initial with
    connection := .plain "postgresql://localhost/storefront"
    pool := { PoolSettings.standard with idleTimeout := none, connectionLifetime := none } }

theorem readDirectory_writeDirectory_unlimited :
    unlimited.version = Configuration.currentVersion ∧
      ∃ written, (writeDirectory FileTree.storage "" unlimited).run (FileTree.empty []) = (.ok (), written)
        ∧ (readDirectory FileTree.storage "").run written = (.ok unlimited, written)
        ∧ (writeDirectory FileTree.storage "" unlimited).run written = (.ok (), written) := by
  obtain ⟨written, hwritten⟩ := exists_writeDirectory unlimited
  exact ⟨rfl, written, hwritten, (readDirectory_writeDirectory unlimited rfl).2 "" _ written hwritten⟩

end QueryGate.Settings
