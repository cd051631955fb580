import Mathlib.Data.Set.Insert
import OrderOfGrowth.Proofs.Effects
import OrderOfGrowth.Proofs.Success

/-!
# What files hold

A change to a file tree is described by the set of locations outside of which every file holds what
it held. Making directories changes no file, and writing a file changes that one. Directories stay
where they are, so a written path leads to the same location before and after, and where nothing is
now nothing was before. A session that only makes records changes nothing but its log file.
-/

namespace OrderOfGrowth

namespace FileTree

variable {tree before middle after : FileTree} {location other : Location} {current : Standpoint}
  {path : String}

/-- The bytes of the file at a location, if there is a file. -/
def contentAt? (tree : FileTree) (location : Location) : Option (List UInt8) :=
  match tree.get? location with
  | some (.file bytes) => some bytes
  | _ => none

/-- Outside a set of locations every file holds what it held and none is new, and everywhere a
directory is still a directory and nothing is gone. -/
structure KeepsOutside (changed : Set Location) (before after : FileTree) : Prop where
  contents : ∀ location ∉ changed, after.contentAt? location = before.contentAt? location
  directories : ∀ location, before.get? location = some .directory →
    after.get? location = some .directory
  occupied : ∀ location, (before.get? location).isSome = true →
    (after.get? location).isSome = true

namespace KeepsOutside

variable {changed larger : Set Location}

/-- A tree keeps its own files. -/
theorem refl (changed : Set Location) (tree : FileTree) : KeepsOutside changed tree tree :=
  ⟨fun _ _ => rfl, fun _ h => h, fun _ h => h⟩

/-- What two changes in a row keep is kept by both together. -/
theorem trans (hfirst : KeepsOutside changed before middle)
    (hsecond : KeepsOutside changed middle after) : KeepsOutside changed before after where
  contents location hlocation :=
    (hsecond.contents location hlocation).trans (hfirst.contents location hlocation)
  directories location h := hsecond.directories location (hfirst.directories location h)
  occupied location h := hsecond.occupied location (hfirst.occupied location h)

/-- What is kept outside a set is kept outside a larger one. -/
theorem mono (h : KeepsOutside changed before after) (hsubset : changed ⊆ larger) :
    KeepsOutside larger before after where
  contents location hlocation := h.contents location fun hmem => hlocation (hsubset hmem)
  directories := h.directories
  occupied := h.occupied

/-- Where nothing is after a change nothing was before. -/
theorem get?_eq_none (h : KeepsOutside changed before after) (hnone : after.get? location = none) :
    before.get? location = none := by
  by_contra hthere
  have hstill := h.occupied location (Option.isSome_iff_ne_none.mpr hthere)
  rw [hnone] at hstill
  cases hstill

end KeepsOutside

/-- A location that is no directory is not the root. -/
theorem ne_nil_of_get?_ne (h : tree.get? location ≠ some .directory) : location ≠ [] := by
  rintro rfl
  exact h rfl

/-- Nothing is gone where something has been put. -/
theorem isSome_get?_put (hlocation : location ≠ []) {node : FileNode}
    (h : (tree.get? other).isSome = true) :
    ((tree.put location node).get? other).isSome = true := by
  by_cases hsame : other = location
  · rw [hsame, tree.get?_put_self hlocation]
    rfl
  · rwa [tree.get?_put_of_ne hsame]

/-- Putting a file where no directory is changes the file there only. -/
theorem keepsOutside_put (h : tree.get? location ≠ some .directory) (bytes : List UInt8) :
    KeepsOutside {location} tree (tree.put location (.file bytes)) where
  contents other hother := by
    unfold contentAt?
    rw [tree.get?_put_of_ne hother]
  directories other hother := by
    have hne : other ≠ location := by
      rintro rfl
      exact h hother
    rwa [tree.get?_put_of_ne hne]
  occupied _ hother := isSome_get?_put (ne_nil_of_get?_ne h) hother

/-- A file that was put in place holds its bytes. -/
theorem contentAt?_put (h : tree.get? location ≠ some .directory) (bytes : List UInt8) :
    (tree.put location (.file bytes)).contentAt? location = some bytes := by
  unfold contentAt?
  rw [tree.get?_put_self (ne_nil_of_get?_ne h)]

/-- A file holds something exactly if it is there. -/
theorem isSome_contentAt?_iff :
    (tree.contentAt? location).isSome = true ↔
      ∃ bytes, tree.get? location = some (.file bytes) := by
  unfold contentAt?
  split <;> simp_all

/-- Bytes can be put at the end of a file wherever no directory is, and then there is one. -/
theorem isSome_contentAt?_append (h : tree.get? location ≠ some .directory) (bytes : List UInt8) :
    ((tree.append location bytes).contentAt? location).isSome = true := by
  unfold append
  split <;> rw [contentAt?_put h] <;> rfl

/-- Bytes at the end of a file change this file only, wherever no directory is. -/
theorem keepsOutside_append_of_ne (h : tree.get? location ≠ some .directory) (bytes : List UInt8) :
    KeepsOutside {location} tree (tree.append location bytes) := by
  unfold append
  split <;> exact keepsOutside_put h _

/-- Bytes at the end of a file that is there change this file only, and it is still there. -/
theorem keepsOutside_append (h : (tree.contentAt? location).isSome = true) (bytes : List UInt8) :
    KeepsOutside {location} tree (tree.append location bytes) ∧
      ((tree.append location bytes).contentAt? location).isSome = true := by
  obtain ⟨old, hold⟩ := isSome_contentAt?_iff.mp h
  have hne : tree.get? location ≠ some .directory := by simp [hold]
  exact ⟨keepsOutside_append_of_ne hne bytes, isSome_contentAt?_append hne bytes⟩

/-- A new directory changes no file. -/
theorem keepsOutside_ensureDirectory (h : tree.ensureDirectory current path = .ok after) :
    KeepsOutside ∅ tree after := by
  obtain ⟨location, -, h⟩ := bind_eq_ok.mp h
  cases hnode : tree.get? location with
  | none =>
    rw [hnode] at h
    dsimp only at h
    split_ifs at h
    obtain rfl := Except.ok.inj h
    have hfree : tree.get? location ≠ some .directory := by simp [hnode]
    have hne := ne_nil_of_get?_ne hfree
    refine ⟨fun other _ => ?_, fun other hother => ?_, fun _ => isSome_get?_put hne⟩
    · unfold contentAt?
      by_cases hother : other = location
      · rw [hother, tree.get?_put_self hne, hnode]
      · rw [tree.get?_put_of_ne hother]
    · have hother' : other ≠ location := by
        rintro rfl
        simp [hnode] at hother
      rwa [tree.get?_put_of_ne hother']
  | some node =>
    rw [hnode] at h
    cases node with
    | directory =>
      obtain rfl := Except.ok.inj h
      exact .refl ∅ tree
    | file bytes => cases h

/-- New directories on the way to a path change no file. -/
theorem keepsOutside_ensureDirectories {count : Nat} {directory : Path}
    (h : ensureDirectories current count tree directory = .ok after) :
    KeepsOutside ∅ tree after := by
  induction count generalizing tree after directory with
  | zero => exact keepsOutside_ensureDirectory h
  | succ count ih =>
    unfold ensureDirectories at h
    split at h
    · split_ifs at h
      obtain ⟨above, habove, h⟩ := bind_eq_ok.mp h
      exact (ih habove).trans (keepsOutside_ensureDirectory h)
    · exact keepsOutside_ensureDirectory h

/-- A walk that succeeds passes directories only, so it leads to the same location as long as they
are there. -/
theorem walk_of_directories {here : Location} {names : List String}
    (hdirectories : ∀ location, before.get? location = some .directory →
      after.get? location = some .directory)
    (h : before.walk current here names = .ok location) :
    after.walk current here names = .ok location := by
  induction names generalizing here with
  | nil => exact h
  | cons name rest ih =>
    unfold walk at h ⊢
    cases hnode : before.get? here with
    | none =>
      rw [hnode] at h
      cases h
    | some node =>
      rw [hnode] at h
      cases node with
      | file bytes => cases h
      | directory =>
        rw [hdirectories here hnode]
        dsimp only at h ⊢
        split_ifs at h ⊢
        · exact ih h
        · exact ih h
        · exact ih h

/-- A written path leads to the same location as long as the directories are there. -/
theorem locate_of_directories
    (hdirectories : ∀ location, before.get? location = some .directory →
      after.get? location = some .directory)
    (h : before.locate current path = .ok location) : after.locate current path = .ok location := by
  unfold locate at h ⊢
  split at h
  · cases h
  by_cases hnull : path.toList.contains '\x00' = true
  · rw [if_pos hnull] at h
    cases h
  by_cases hempty : path = ""
  · rw [if_neg hnull, if_pos hempty] at h
    cases h
  by_cases hlong : maxPathBytes < (Text.nameBytes path.toList).length
  · rw [if_neg hnull, if_neg hempty, if_pos hlong] at h
    cases h
  rw [if_neg hnull, if_neg hempty, if_neg hlong] at h ⊢
  cases hwalk :
    before.walk current (if isAbsolute path then [] else current.location) (stepsOf path) with
  | error obstacle =>
    rw [hwalk] at h
    cases obstacle <;> cases h
  | ok reached =>
    rw [hwalk] at h
    obtain rfl := Except.ok.inj h
    rw [walk_of_directories hdirectories hwalk]

/-- What is read at a path is what the file at its location holds, which may be read, and the path
asks for a file. -/
theorem read_eq_ok_iff {bytes : List UInt8} :
    tree.read current path = .ok bytes ↔
      ∃ location, tree.locate current path = .ok location ∧
        tree.contentAt? location = some bytes ∧ endsInSlash path = false ∧
        current.denied .read location = false := by
  unfold read contentAt?
  rw [bind_eq_ok]
  refine exists_congr fun location => and_congr_right fun _ => ?_
  rcases tree.get? location with _ | (_ | held)
  · simp [throw, throwThe, MonadExceptOf.throw]
  · cases current.denied .read location <;> simp [throw, throwThe, MonadExceptOf.throw]
  · cases endsInSlash path <;> cases current.denied .read location <;>
      simp [throw, throwThe, MonadExceptOf.throw, pure, Except.pure]

/-- Whether the file at a location may be written, or a new one put there. -/
def mayWrite (tree : FileTree) (current : Standpoint) (location : Location) : Bool :=
  if (tree.get? location).isSome then !current.denied .write location
  else !current.cannotCreate location

/-- The location of a file that can be written is the one that its path leads to, no directory is
there, and it may be written. -/
theorem target_eq_ok_iff :
    tree.target current path = .ok location ↔
      tree.locate current path = .ok location ∧ endsInSlash path = false ∧
        tree.get? location ≠ some .directory ∧ tree.mayWrite current location = true := by
  unfold target mayWrite
  rw [bind_eq_ok]
  constructor
  · rintro ⟨reached, hreached, h⟩
    cases hslash : endsInSlash path with
    | true =>
      rw [hslash] at h
      cases h
    | false =>
      rw [hslash] at h
      rcases hnode : tree.get? reached with _ | (_ | held) <;> rw [hnode] at h
      · cases hallowed : current.cannotCreate reached <;> rw [hallowed] at h
        · obtain rfl := Except.ok.inj h
          simp [hreached, hnode, hallowed]
        · cases h
      · cases h
      · cases hallowed : current.denied .write reached <;> rw [hallowed] at h
        · obtain rfl := Except.ok.inj h
          simp [hreached, hnode, hallowed]
        · cases h
  · rintro ⟨hlocation, hslash, hfree, hmay⟩
    refine ⟨location, hlocation, ?_⟩
    rw [hslash]
    rcases hnode : tree.get? location with _ | (_ | held) <;> rw [hnode] at hmay
    · obtain hallowed : current.cannotCreate location = false := by simpa using hmay
      rw [hallowed]
      rfl
    · exact absurd hnode hfree
    · obtain hallowed : current.denied .write location = false := by simpa using hmay
      rw [hallowed]
      rfl

/-- A file that has been put where it can be written is found at its path, holds its bytes and can
be written again, and no other file changes. -/
theorem target_put (h : tree.target current path = .ok location) (bytes : List UInt8) :
    (tree.put location (.file bytes)).target current path = .ok location ∧
      (tree.put location (.file bytes)).contentAt? location = some bytes ∧
      KeepsOutside {location} tree (tree.put location (.file bytes)) := by
  obtain ⟨hlocate, hslash, hnode, hmay⟩ := target_eq_ok_iff.mp h
  have hkeeps := keepsOutside_put hnode bytes
  have hfile : (tree.put location (.file bytes)).get? location = some (.file bytes) :=
    tree.get?_put_self (ne_nil_of_get?_ne hnode) _
  refine ⟨target_eq_ok_iff.mpr ⟨?_, hslash, ?_, ?_⟩, contentAt?_put hnode bytes, hkeeps⟩
  · exact locate_of_directories hkeeps.directories hlocate
  · simp [hfile]
  · have hallowed : current.denied .write location = false := by
      unfold mayWrite Standpoint.cannotCreate at hmay
      split_ifs at hmay <;> simp_all
    simp [mayWrite, hfile, hallowed]

/-- A file that is there and can be written can still be written after others have changed. -/
theorem KeepsOutside.target_eq_ok {changed : Set Location}
    (hkeeps : KeepsOutside changed before after) (hlocation : location ∉ changed)
    (hthere : (before.contentAt? location).isSome = true)
    (h : before.target current path = .ok location) : after.target current path = .ok location := by
  obtain ⟨hlocate, hslash, -, hmay⟩ := target_eq_ok_iff.mp h
  have hstill := hthere
  rw [← hkeeps.contents location hlocation] at hstill
  obtain ⟨bytes, hbytes⟩ := isSome_contentAt?_iff.mp hthere
  obtain ⟨bytes', hbytes'⟩ := isSome_contentAt?_iff.mp hstill
  refine target_eq_ok_iff.mpr ⟨?_, hslash, ?_, ?_⟩
  · exact locate_of_directories hkeeps.directories hlocate
  · simp [hbytes']
  · unfold mayWrite at hmay ⊢
    rw [hbytes']
    rwa [hbytes] at hmay

/-- A new file is put under one of the names that are tried, where it can be written and where
nothing is yet. -/
theorem createFirst_eq_ok {names : List String}
    (h : tree.createFirst current names = .ok (path, after)) :
    path ∈ names ∧ ∃ location, tree.target current path = .ok location ∧
      tree.get? location = none ∧ after = tree.put location (.file []) := by
  induction names with
  | nil => cases h
  | cons name names ih =>
    obtain ⟨location, hlocation, h⟩ := bind_eq_ok.mp h
    split_ifs at h with hthere
    · obtain ⟨hmem, hcreated⟩ := ih h
      exact ⟨List.mem_cons_of_mem name hmem, hcreated⟩
    · obtain ⟨target, htarget, h⟩ := bind_eq_ok.mp h
      obtain ⟨rfl, rfl⟩ := Prod.mk.inj (Except.ok.inj h)
      obtain rfl : target = location :=
        Except.ok.inj ((target_eq_ok_iff.mp htarget).1.symm.trans hlocation)
      exact ⟨List.mem_cons_self, target, htarget, by simpa using hthere, rfl⟩

end FileTree

namespace Session

variable {before middle after session : Session} {location : Location}

/-- The locations that records go to: that of the log file, if there is one. -/
def logLocations (session : Session) : Set Location :=
  {location | session.logFile = some location}

/-- The log file, if there is one, is there. -/
def LogStands (session : Session) : Prop :=
  ∀ location ∈ session.logLocations, (session.files.contentAt? location).isSome = true

/-- A session whose log file is there still has no other one, and no other file has changed. -/
def OnlyLogs (before after : Session) : Prop :=
  before.LogStands → after.LogStands ∧ after.logLocations ⊆ before.logLocations ∧
    before.files.KeepsOutside before.logLocations after.files

/-- Without new records only directories are new. -/
theorem onlyLogs_of_keepsOutside (hlogs : after.logLocations ⊆ before.logLocations)
    (hfiles : FileTree.KeepsOutside ∅ before.files after.files) : before.OnlyLogs after := by
  intro hstands
  refine ⟨fun location hlocation => ?_, hlogs, hfiles.mono (Set.empty_subset _)⟩
  rw [hfiles.contents location (Set.notMem_empty location)]
  exact hstands location (hlogs hlocation)

/-- What changes no file but the log file twice in a row changes no other one at all. -/
theorem OnlyLogs.trans (hfirst : before.OnlyLogs middle) (hsecond : middle.OnlyLogs after) :
    before.OnlyLogs after := by
  intro hstands
  obtain ⟨hstands', hlogs, hfiles⟩ := hfirst hstands
  obtain ⟨hstands'', hlogs', hfiles'⟩ := hsecond hstands'
  exact ⟨hstands'', hlogs'.trans hlogs, hfiles.trans (hfiles'.mono hlogs)⟩

/-- A record changes the log file only. -/
theorem onlyLogs_recorded (around : Surroundings) (level : LogLevel) (message : String)
    (session : Session) : session.OnlyLogs (Action.recorded around level message session) := by
  intro hstands
  have hsame : (Action.recorded around level message session).logLocations =
    session.logLocations := rfl
  cases hlog : session.logFile with
  | none =>
    have hfiles : (Action.recorded around level message session).files = session.files := by
      simp [Action.recorded, Action.withLogLine, hlog]
    exact onlyLogs_of_keepsOutside (by rw [hsame]) (by rw [hfiles]; exact .refl ∅ _) hstands
  | some location =>
    have hlocations : session.logLocations = {location} := by
      ext other
      simp [logLocations, hlog, eq_comm]
    set line := (LogRecord.make session.fields level message).line around.time with hline
    by_cases hsurrogate : line.any Text.isSurrogate = true
    · have hfiles : (Action.recorded around level message session).files = session.files := by
        simp only [Action.recorded, Action.withLogLine, hlog, ← hline, if_pos hsurrogate]
      exact onlyLogs_of_keepsOutside (by rw [hsame]) (by rw [hfiles]; exact .refl ∅ _) hstands
    · have hfiles : (Action.recorded around level message session).files =
          session.files.append location (Text.utf8 line) := by
        simp only [Action.recorded, Action.withLogLine, hlog, ← hline, if_neg hsurrogate]
      have hthere := hstands location (by rw [hlocations]; exact rfl)
      obtain ⟨hkeeps, hstill⟩ := FileTree.keepsOutside_append hthere (Text.utf8 line)
      refine ⟨?_, by rw [hsame], by rw [hfiles, hlocations]; exact hkeeps⟩
      intro other hother
      rw [hsame, hlocations] at hother
      obtain rfl : other = location := hother
      rw [hfiles]
      exact hstill

/-- A log file that logging has been set up with is there. -/
theorem logStands_of_configureLogging {around : Surroundings} {debug verbose : Bool}
    {logFile : Option String}
    (h : Action.configureLogging debug verbose logFile around session = (.ok (), after)) :
    after.LogStands := by
  intro location hlocation
  rcases Action.configureLogging_cases h with
    ⟨hnone, -⟩ | ⟨_, target, -, -, htarget, hsome, hfiles⟩
  · exact absurd (hnone.symm.trans hlocation) nofun
  · obtain rfl : target = location := Option.some.inj (hsome.symm.trans hlocation)
    rw [hfiles]
    obtain ⟨_, -, htarget⟩ := bind_eq_ok.mp htarget
    exact FileTree.isSome_contentAt?_append (FileTree.target_eq_ok_iff.mp htarget).2.2.1 []

/-- Nothing that happens before a command prints or writes changes another file than the log
file. -/
theorem onlyLogs_frame : Frame OnlyLogs where
  refl session := onlyLogs_of_keepsOutside subset_rfl (.refl ∅ _)
  trans := OnlyLogs.trans
  fields session fields := onlyLogs_of_keepsOutside subset_rfl (.refl ∅ _)
  input session := onlyLogs_of_keepsOutside subset_rfl (.refl ∅ _)
  record around level message session := by
    refine OnlyLogs.trans ?_ (onlyLogs_recorded around level message _)
    unfold Action.prepared
    split_ifs
    · exact onlyLogs_of_keepsOutside (fun _ h => nomatch h) (.refl ∅ _)
    · exact onlyLogs_of_keepsOutside subset_rfl (.refl ∅ _)

end Session

end OrderOfGrowth
