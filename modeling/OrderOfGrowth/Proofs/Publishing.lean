import OrderOfGrowth.Proofs.FileContents
import OrderOfGrowth.Proofs.Storable

/-!
# Publishing a page

The page of a chart is made before its file is opened, and a page that can be stored is written in
full to a file that can be opened, as long as its device works. What comes afterwards are records
and a browser, which may keep the page from being seen but not from being there. So a chart is
published, or a fault of the device cuts its page short, or every file but the log file is as it
was.
-/

namespace OrderOfGrowth

namespace WriteFault

/-- What a place gives to a write: the value, if there is no fault. -/
def outcome {α : Type} (fault : Option WriteFault) (value : α) : Except Failure α :=
  match fault with
  | none => .ok value
  | some fault => .error (.file (.device fault.message))

/-- What a place keeps of the bytes that are written there: all of them, if there is no fault. -/
def bytesKept (fault : Option WriteFault) (bytes : List UInt8) : List UInt8 :=
  match fault with
  | none => bytes
  | some fault => bytes.take fault.kept

end WriteFault

namespace Action

variable {around : Surroundings} {session after : Session} {path : String} {location : Location}

/-- A file that cannot be opened is not changed. -/
theorem openFile_of_target_eq_error {problem : FileProblem}
    (h : session.files.target around.current path = .error problem) :
    openFile path around session = (.error (.file problem), session) := by
  unfold openFile
  rw [bind_of_eq_ok rfl, bind_of_eq_ok rfl, h]
  rfl

/-- A file that can be opened is empty afterwards. -/
theorem openFile_of_target (h : session.files.target around.current path = .ok location) :
    openFile path around session =
      (.ok location, { session with files := session.files.put location (.file []) }) := by
  unfold openFile
  rw [bind_of_eq_ok rfl, bind_of_eq_ok rfl, h]
  rfl

/-- A text is not written at all if its file cannot be opened. -/
theorem writeText_of_target_eq_error (text : List Char) {problem : FileProblem}
    (h : session.files.target around.current path = .error problem) :
    writeText path text around session = (.error (.file problem), session) := by
  unfold writeText
  exact bind_of_eq_error (openFile_of_target_eq_error h)

/-- A text that can be stored is written to a file that can be opened, as far as the device of the
file keeps it. -/
theorem writeText_of_target {text : List Char} (htext : Text.IsStorable text)
    (h : session.files.target around.current path = .ok location) :
    ∃ files, writeText path text around session =
        (WriteFault.outcome (around.writeFault location) (), { session with files := files }) ∧
      files.locate around.current path = .ok location ∧
      files.contentAt? location =
        some (WriteFault.bytesKept (around.writeFault location) (Text.utf8 text)) ∧
      FileTree.KeepsOutside {location} session.files files := by
  -- the file is opened, which empties it, and still at the same place when it gets its text
  obtain ⟨hagain, -, hkeeps⟩ := FileTree.target_put h []
  obtain ⟨hlast, hcontent, hkeeps'⟩ := FileTree.target_put hagain
    (WriteFault.bytesKept (around.writeFault location) (Text.utf8 text))
  refine ⟨_, ?_, (FileTree.target_eq_ok_iff.mp hlast).1, hcontent, hkeeps.trans hkeeps'⟩
  unfold writeText
  rw [bind_of_eq_ok (openFile_of_target h), Text.surrogateRun?_eq_none_iff.mpr htext]
  dsimp only
  rw [bind_of_eq_ok rfl]
  cases around.writeFault location with
  | none => rfl
  | some fault => rfl

/-- Writing a text that cannot be stored fails. -/
theorem exists_writeText_eq_error {text : List Char} (htext : ¬ Text.IsStorable text)
    (path : String) (around : Surroundings) (session : Session) :
    ∃ failure between, writeText path text around session = (.error failure, between) := by
  unfold writeText
  cases htarget : session.files.target around.current path with
  | error problem =>
    exact ⟨_, _, bind_of_eq_error (openFile_of_target_eq_error htarget)⟩
  | ok location =>
    rw [bind_of_eq_ok (openFile_of_target htarget)]
    cases hrun : Text.surrogateRun? text with
    | none => exact absurd (Text.surrogateRun?_eq_none_iff.mp hrun) htext
    | some run => exact ⟨_, _, rfl⟩

/-- A temporary file is made under one of the names for it, where it can be opened and where nothing
was before, and it is empty; or none is made. -/
theorem createTemporary_cases (around : Surroundings) (session : Session) :
    (∃ problem, createTemporary around session = (.error (.file problem), session)) ∨
      ∃ path ∈ around.scratch, ∃ location,
        session.files.target around.current path = .ok location ∧
        session.files.get? location = none ∧
        createTemporary around session =
          (.ok path, { session with files := session.files.put location (.file []) }) := by
  cases hcreated : session.files.createFirst around.current around.scratch with
  | error problem =>
    refine Or.inl ⟨problem, ?_⟩
    unfold createTemporary
    rw [bind_of_eq_ok rfl, bind_of_eq_ok rfl, hcreated]
    rfl
  | ok created =>
    obtain ⟨hmem, location, htarget, hnew, hfiles⟩ := FileTree.createFirst_eq_ok hcreated
    refine Or.inr ⟨created.1, hmem, location, htarget, hnew, ?_⟩
    unfold createTemporary
    rw [bind_of_eq_ok rfl, bind_of_eq_ok rfl, hcreated, ← hfiles]
    rfl

/-- Printing changes no file. -/
theorem keeps_print (text : List Char) : Keeps Session.OnlyLogs (print text) := by
  intro around session
  unfold print
  cases Text.surrogateRun? text <;> exact Session.onlyLogs_of_keepsOutside subset_rfl (.refl ∅ _)

/-- Opening a page in a browser always succeeds; a browser that cannot be started is only worth a
record. -/
theorem exists_openInBrowser_eq_ok (path : String) (around : Surroundings) (session : Session) :
    ∃ between, openInBrowser path around session = (.ok (), between) := by
  unfold openInBrowser
  rw [bind_of_eq_ok rfl]
  cases around.browserFault with
  | some fault => exact exists_log_eq_ok _ _ _ around session
  | none => exact ⟨_, rfl⟩

/-- Opening a page in a browser changes no file. -/
theorem keeps_openInBrowser (path : String) : Keeps Session.OnlyLogs (openInBrowser path) := by
  intro around session
  unfold openInBrowser
  rw [bind_of_eq_ok rfl]
  cases around.browserFault with
  | some fault => exact Session.onlyLogs_frame.log _ _ _ around session
  | none => exact Session.onlyLogs_of_keepsOutside subset_rfl (.refl ∅ _)

end Action

namespace Session

variable {session after : Session}

/-- A log file is still there after a file has got other bytes. -/
theorem LogStands.of_keepsOutside {files : FileTree} {location : Location} {bytes : List UInt8}
    (hstands : session.LogStands) (hkept : session.files.KeepsOutside {location} files)
    (hcontent : files.contentAt? location = some bytes) :
    Session.LogStands { session with files := files } := by
  intro other hother
  by_cases hsame : other = location
  · rw [hsame, hcontent]
    rfl
  · rw [hkept.contents other hsame]
    exact hstands other hother

/-- Between two sessions the file at a path, which is at a location, has got some bytes, and no
other file has changed except the log file, which is still there if there is one. -/
structure WritesFile (before after : Session) (current : Standpoint) (path : String)
    (location : Location) (bytes : List UInt8) : Prop where
  logStands : after.LogStands
  logLocations : after.logLocations ⊆ before.logLocations
  locate : after.files.locate current path = .ok location
  content : location ∉ before.logLocations → after.files.contentAt? location = some bytes
  kept : before.files.KeepsOutside (insert location before.logLocations) after.files

/-- Between two sessions a page has come into the file at a path, and no other file has changed
except the log file. -/
def WritesPage (before after : Session) (current : Standpoint) (path : String)
    (page : List Char) : Prop :=
  ∃ location, before.WritesFile after current path location (Text.utf8 page)

/-- The path that a page is put at is the one that is wanted; if none is, it is one of the names for
temporary files, and there was nothing at its location. -/
def IsPathFor (before : Session) (around : Surroundings) (wanted : Option String) (path : String)
    (location : Location) : Prop :=
  match wanted with
  | some chosen => path = chosen
  | none => path ∈ around.scratch ∧ before.files.get? location = none

section Writing

variable {current : Standpoint} {path : String} {location : Location} {bytes : List UInt8}

/-- What happens to the same file and the log file before can be counted to a write. -/
theorem WritesFile.after_kept {begun : Session}
    (h : session.WritesFile after current path location bytes)
    (hlogs : session.logLocations ⊆ begun.logLocations)
    (hkept : begun.files.KeepsOutside (insert location begun.logLocations) session.files) :
    begun.WritesFile after current path location bytes where
  logStands := h.logStands
  logLocations := h.logLocations.trans hlogs
  locate := h.locate
  content hlocation := h.content fun hmem => hlocation (hlogs hmem)
  kept := hkept.trans (h.kept.mono (Set.insert_subset_insert hlogs))

/-- What happens before a page is written can be counted to it. -/
theorem WritesFile.after_onlyLogs {begun : Session} (hstands : begun.LogStands)
    (honly : begun.OnlyLogs session) (h : session.WritesFile after current path location bytes) :
    begun.WritesFile after current path location bytes := by
  obtain ⟨-, hlogs, hfiles⟩ := honly hstands
  exact h.after_kept hlogs (hfiles.mono (Set.subset_insert _ _))

/-- Records that are made after a page has been written leave it as it is. -/
theorem WritesFile.before_onlyLogs {ended : Session}
    (h : session.WritesFile after current path location bytes) (honly : after.OnlyLogs ended) :
    session.WritesFile ended current path location bytes := by
  obtain ⟨hstands, hlogs, hfiles⟩ := honly h.logStands
  refine ⟨hstands, hlogs.trans h.logLocations,
    FileTree.locate_of_directories hfiles.directories h.locate, ?_, ?_⟩
  · intro hlocation
    rw [hfiles.contents location fun hmem => hlocation (h.logLocations hmem)]
    exact h.content hlocation
  · exact h.kept.trans (hfiles.mono (h.logLocations.trans (Set.subset_insert _ _)))

/-- A new file is none of those that were there when less had happened. -/
theorem IsPathFor.after_onlyLogs {around : Surroundings} {wanted : Option String}
    {begun : Session} (hstands : begun.LogStands) (honly : begun.OnlyLogs session)
    (h : session.IsPathFor around wanted path location) :
    begun.IsPathFor around wanted path location := by
  obtain ⟨-, -, hfiles⟩ := honly hstands
  cases wanted with
  | some chosen => exact h
  | none => exact ⟨h.1, hfiles.get?_eq_none h.2⟩

end Writing

end Session

namespace Action

variable {around : Surroundings} {session : Session} {path : String} {location : Location}

/-- A text that can be stored is written to a file that can be opened, as far as the device of the
file keeps it, and a log file stands as before. -/
theorem exists_writesFile_of_target {text : List Char} (hstands : session.LogStands)
    (htext : Text.IsStorable text)
    (h : session.files.target around.current path = .ok location) :
    ∃ after, writeText path text around session =
        (WriteFault.outcome (around.writeFault location) (), after) ∧
      session.WritesFile after around.current path location
        (WriteFault.bytesKept (around.writeFault location) (Text.utf8 text)) := by
  obtain ⟨files, hwrite, hlocate, hcontent, hfiles⟩ := writeText_of_target htext h
  exact ⟨_, hwrite, hstands.of_keepsOutside hfiles hcontent, subset_rfl, hlocate,
    fun _ => hcontent, hfiles.mono (Set.singleton_subset_iff.mpr (Set.mem_insert _ _))⟩

end Action

namespace Chart

variable {around : Surroundings} {session after : Session} {location : Location}

/-- The path of a page is the one that is asked for, if it is not empty, and nothing has happened;
or a temporary file has been made for it, or could not be made. -/
theorem targetPath_cases (asked : Option String) (around : Surroundings) (session : Session) :
    (∃ path, asked.filter (· ≠ "") = some path ∧
      targetPath asked around session = (.ok path, session)) ∨
      asked.filter (· ≠ "") = none ∧ targetPath asked = Action.createTemporary := by
  unfold targetPath
  cases asked with
  | none => exact Or.inr ⟨rfl, if_pos rfl⟩
  | some path =>
    by_cases hempty : path = ""
    · refine Or.inr ⟨by simp [hempty], if_pos hempty⟩
    · refine Or.inl ⟨path, by simp [hempty], ?_⟩
      dsimp only [Option.getD_some]
      rw [if_neg hempty]
      rfl

/-- A chart whose page can be stored is published, as far as the device of its file keeps it, if
the file can be opened. -/
theorem publish_of_target {chart : Chart} {asked : Option String} {page : List Char}
    {path : String} {between : Session} (hstands : between.LogStands)
    (hpage : chart.page Chart.standardTitle = .ok page) (hstorable : Text.IsStorable page)
    (hpath : targetPath asked around session = (.ok path, between))
    (htarget : between.files.target around.current path = .ok location) (openPage : Bool) :
    ∃ published, chart.publish asked openPage around session =
        (WriteFault.outcome (around.writeFault location) path, published) ∧
      between.WritesFile published around.current path location
        (WriteFault.bytesKept (around.writeFault location) (Text.utf8 page)) := by
  obtain ⟨written, hwrite, hwritten⟩ :=
    Action.exists_writesFile_of_target hstands hstorable htarget
  have hlift : Action.lift (chart.page Chart.standardTitle) around session = (.ok page, session) :=
    Action.lift_eq_ok_iff.mpr ⟨hpage, rfl⟩
  unfold Chart.publish
  rw [Action.bind_of_eq_ok hlift, Action.bind_of_eq_ok hpath]
  cases hfault : around.writeFault location with
  | some fault =>
    rw [hfault] at hwrite hwritten
    exact ⟨written, Action.bind_of_eq_error hwrite, hwritten⟩
  | none =>
    rw [hfault] at hwrite hwritten
    obtain ⟨logged, hlogged⟩ : ∃ logged, Action.logFileOperation "write" path
        [("complexity", some chart.complexity.label)] around written = (.ok (), logged) :=
      Action.exists_log_eq_ok _ _ _ around _
    have hlog := hwritten.before_onlyLogs ((Session.onlyLogs_frame.log _ _ _).of_eq hlogged)
    rw [Action.bind_of_eq_ok hwrite, Action.bind_of_eq_ok hlogged]
    cases openPage with
    | false => exact ⟨logged, rfl, hlog⟩
    | true =>
      obtain ⟨opened, hopened⟩ := Action.exists_openInBrowser_eq_ok path around logged
      rw [if_pos rfl, Action.bind_of_eq_ok hopened]
      exact ⟨opened, rfl, hlog.before_onlyLogs ((Action.keeps_openInBrowser _).of_eq hopened)⟩

/-- A chart is published, as far as the device of its file keeps it, or, if its page can be stored,
no file has changed. -/
theorem publish_cases {chart : Chart} {asked : Option String} {openPage : Bool}
    {outcome : Except Failure String} (hstands : session.LogStands)
    (h : chart.publish asked openPage around session = (outcome, after)) :
    (∃ failure, outcome = .error failure ∧
      ((∀ page, chart.page Chart.standardTitle = .ok page → Text.IsStorable page) →
        session.OnlyLogs after)) ∨
      ∃ page path location, chart.page Chart.standardTitle = .ok page ∧
        session.IsPathFor around (asked.filter (· ≠ "")) path location ∧
        outcome = WriteFault.outcome (around.writeFault location) path ∧
        session.WritesFile after around.current path location
          (WriteFault.bytesKept (around.writeFault location) (Text.utf8 page)) := by
  have hframe := Session.onlyLogs_frame
  have hpublished := h
  unfold Chart.publish at h
  rcases hframe.bind_cases (hframe.refl _) (hframe.lift _) h with
    ⟨failure, houtcome, honly⟩ | ⟨page, _, hlifted, -, h⟩
  · exact Or.inl ⟨failure, houtcome, fun _ => honly⟩
  obtain ⟨hpage, rfl⟩ := Action.lift_eq_ok_iff.mp hlifted
  by_cases hstorable : Text.IsStorable page
  swap
  · -- nothing is said about a page that cannot be stored, but that it is not published
    rcases Action.bind_cases h with ⟨failure, -, rfl⟩ | ⟨path, between, -, h⟩
    · exact Or.inl ⟨failure, rfl, fun hall => absurd (hall page hpage) hstorable⟩
    · obtain ⟨failure, written, hfailed⟩ :=
        Action.exists_writeText_eq_error hstorable path around between
      rw [Action.bind_of_eq_error hfailed] at h
      obtain ⟨rfl, rfl⟩ := Prod.mk.inj h
      exact Or.inl ⟨failure, rfl, fun hall => absurd (hall page hpage) hstorable⟩
  rcases targetPath_cases asked around session with ⟨path, hwanted, hpath⟩ | ⟨hwanted, hnew⟩
  · cases htarget : session.files.target around.current path with
    | error problem =>
      rw [Action.bind_of_eq_ok hpath,
        Action.bind_of_eq_error (Action.writeText_of_target_eq_error page htarget)] at h
      obtain ⟨rfl, rfl⟩ := Prod.mk.inj h
      exact Or.inl ⟨_, rfl, fun _ => hframe.refl _⟩
    | ok location =>
      obtain ⟨published, heq, hwrites⟩ :=
        publish_of_target hstands hpage hstorable hpath htarget openPage
      obtain ⟨rfl, rfl⟩ := Prod.mk.inj (heq.symm.trans hpublished)
      refine Or.inr ⟨page, path, location, hpage, ?_, rfl, hwrites⟩
      rw [hwanted]
      exact rfl
  · rcases Action.createTemporary_cases around session with
      ⟨problem, hfailed⟩ | ⟨path, hmem, location, htarget, hfree, hcreated⟩
    · rw [hnew, Action.bind_of_eq_error hfailed] at h
      obtain ⟨rfl, rfl⟩ := Prod.mk.inj h
      exact Or.inl ⟨_, rfl, fun _ => hframe.refl _⟩
    · obtain ⟨hagain, hempty, hkept⟩ := FileTree.target_put htarget []
      obtain ⟨published, heq, hwrites⟩ := publish_of_target
        (hstands.of_keepsOutside hkept hempty) hpage hstorable (hnew ▸ hcreated) hagain openPage
      obtain ⟨rfl, rfl⟩ := Prod.mk.inj (heq.symm.trans hpublished)
      refine Or.inr ⟨page, path, location, hpage, ?_, rfl, hwrites.after_kept subset_rfl ?_⟩
      · rw [hwanted]
        exact ⟨hmem, hfree⟩
      · exact hkept.mono (Set.singleton_subset_iff.mpr (Set.mem_insert _ _))

end Chart

end OrderOfGrowth
