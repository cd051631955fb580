import Mathlib.Data.List.Count
import OrderOfGrowth.Proofs.SourceRoutes
import OrderOfGrowth.Proofs.WellFormedBytes

/-!
# What reading a source gives

A file whose bytes are well formed is read as its text with line feeds for line breaks, so a text
comes back from every way of writing its breaks. Only one way is ambiguous: a carriage return in
front of a line feed is one break and not two. Other bytes are a problem of the source, and its
message says where the first ill-formed sequence begins.

Two routes lead to a failure that is no problem of the source: the standard input, whose bytes are
decoded without a guard unless its rule has a place for all of them, and a path with a half of a
surrogate pair that stands for no byte of a name.
-/

namespace OrderOfGrowth

namespace Text

/-- The ways to write a line break. -/
inductive LineBreak where
  | feed
  | both
  | single
  deriving DecidableEq

/-- The characters of a line break. -/
def LineBreak.text : LineBreak → List Char
  | .feed => ['\n']
  | .both => ['\r', '\n']
  | .single => ['\r']

variable {choice : ℕ → LineBreak} {text rest stored : List Char} {c : Char}

/-- What is joined has the characters of the pieces, besides those that stand between them. -/
theorem mem_joinWith_iff {between : List Char} {pieces : List (List Char)} (hc : c ∉ between) :
    c ∈ joinWith between pieces ↔ ∃ piece ∈ pieces, c ∈ piece := by
  induction pieces with
  | nil => simp [joinWith]
  | cons piece pieces ih =>
    by_cases hne : pieces = []
    · simp [hne, joinWith]
    · rw [joinWith_cons hne, List.exists_mem_cons_iff, ← ih]
      simp [hc]

/-- A name has a half of a surrogate pair that stands for no byte exactly if there is a first such
half. -/
theorem unnamedRun?_eq_none_iff {name : List Char} :
    unnamedRun? name = none ↔ ∀ c ∈ name, isSurrogate c = true → (byteOfHalf? c).isSome = true := by
  have hnone : unnamedRun? name = none ↔
      name.dropWhile (fun c => !isSurrogate c || (byteOfHalf? c).isSome) = [] := by
    unfold unnamedRun? runAtRest?
    split <;> simp_all
  rw [hnone, List.dropWhile_eq_nil_iff]
  refine forall₂_congr fun c _ => ?_
  cases isSurrogate c <;> simp

end Text

/-- Writing a path in normal form keeps its characters, besides slashes and dots. -/
theorem Path.mem_text_ofText {path : String} {c : Char} (hslash : c ≠ '/') (hdot : c ≠ '.') :
    c ∈ (ofText path).text.toList ↔ c ∈ path.toList := by
  have hbetween : c ∉ ['/'] := by simpa using hslash
  -- a character of a piece is neither lost with an empty piece nor with a single dot
  have hpieces : c ∈ path.toList ↔ ∃ name ∈ (ofText path).names, c ∈ name.toList := by
    rw [← Text.joinWith_splitAt '/' path.toList, Text.mem_joinWith_iff hbetween]
    unfold ofText namesOf
    simp only [List.mem_map, List.mem_filter]
    constructor
    · rintro ⟨piece, hpiece, hc⟩
      refine ⟨_, ⟨piece, ⟨hpiece, ?_⟩, rfl⟩, by rwa [String.toList_ofList]⟩
      have hempty : piece ≠ [] := List.ne_nil_of_mem hc
      have hsingle : piece ≠ ['.'] := by
        rintro rfl
        exact hdot (List.mem_singleton.mp hc)
      simp [hempty, hsingle]
    · rintro ⟨_, ⟨piece, ⟨hpiece, -⟩, rfl⟩, hc⟩
      exact ⟨piece, hpiece, by rwa [String.toList_ofList] at hc⟩
  rw [hpieces]
  unfold text
  dsimp only
  split_ifs with hempty
  · rw [hempty.2]
    simpa using hdot
  · rw [String.toList_ofList, List.mem_append, Text.mem_joinWith_iff hbetween]
    simp [hslash]

/-- The problems that the system reports once it has been given a path. -/
def FileProblem.IsOfSystem : FileProblem → Prop
  | .nullByte | .unencodable _ => False
  | _ => True

namespace FileTree

variable {tree : FileTree} {current : Standpoint} {path : String} {run : Text.SurrogateRun}
  {problem : FileProblem}

/-- A path with a half of a surrogate pair that stands for no byte leads nowhere. -/
theorem read_of_unnamedRun? (h : Text.unnamedRun? path.toList = some run) :
    tree.read current path = .error (.unencodable run) := by
  unfold read locate
  rw [h]
  rfl

/-- What keeps any other path without null characters from leading anywhere is reported by the
system. -/
theorem isOfSystem_of_locate (hnamed : Text.unnamedRun? path.toList = none)
    (hnull : '\x00' ∉ path.toList) (h : tree.locate current path = .error problem) :
    problem.IsOfSystem := by
  unfold locate at h
  simp only [hnamed, List.contains_iff_mem, hnull, if_false] at h
  generalize (if isAbsolute path then [] else current.location) = start at h
  split_ifs at h
  · cases h
    trivial
  · cases h
    trivial
  · split at h <;> cases h <;> trivial

/-- What keeps the bytes at such a path from being read is reported by the system, too. -/
theorem isOfSystem_of_read (hnamed : Text.unnamedRun? path.toList = none)
    (hnull : '\x00' ∉ path.toList) (h : tree.read current path = .error problem) :
    problem.IsOfSystem := by
  rcases bind_eq_error.mp h with hlocate | ⟨location, -, h⟩
  · exact isOfSystem_of_locate hnamed hnull hlocate
  rcases hnode : tree.get? location with _ | (_ | bytes) <;> simp only [hnode] at h
  · cases h
    trivial
  · split_ifs at h <;> cases h <;> trivial
  · split_ifs at h <;> cases h <;> trivial

end FileTree

namespace Source

variable {around : Surroundings} {session : Session} {path : String} {bytes : List UInt8}

/-- What the system reports about a path is a problem of the source. -/
theorem fst_read_of_isOfSystem {problem : FileProblem} (hpath : path ≠ inputPath)
    (h : session.files.read around.current (Path.ofText path).text = .error problem)
    (hsystem : problem.IsOfSystem) :
    ∃ found, (read path around session).1 = .error (.source found) := by
  rw [Action.read_eq_ofFile hpath]
  unfold ofFile
  rw [h]
  cases problem with
  | nullByte => exact hsystem.elim
  | unencodable run => exact hsystem.elim
  | _ => exact ⟨_, rfl⟩

/-- A half of a surrogate pair that stands for no byte makes a failure of its own. -/
theorem fst_read_of_unnamedRun? {run : Text.SurrogateRun} (hpath : path ≠ inputPath)
    (h : Text.unnamedRun? (Path.ofText path).text.toList = some run) :
    (read path around session).1 = .error (.file (.unencodable run)) := by
  rw [Action.read_eq_ofFile hpath]
  unfold ofFile
  rw [FileTree.read_of_unnamedRun? h]

/-- A path in normal form has halves that stand for no byte exactly if the written path has. -/
theorem unnamedRun?_text_ofText_eq_none_iff :
    Text.unnamedRun? (Path.ofText path).text.toList = none ↔
      ∀ c ∈ path.toList, Text.isSurrogate c = true → (Text.byteOfHalf? c).isSome = true := by
  have hmem {c : Char} (hc : Text.isSurrogate c = true) :
      c ∈ (Path.ofText path).text.toList ↔ c ∈ path.toList := by
    refine Path.mem_text_ofText ?_ ?_ <;> rintro rfl <;> exact absurd hc (by decide)
  rw [Text.unnamedRun?_eq_none_iff]
  exact ⟨fun h c hc hhalf => h c ((hmem hhalf).mpr hc) hhalf,
    fun h c hc hhalf => h c ((hmem hhalf).mp hc) hhalf⟩

/-- The characters that a path stands for: those that the bytes on the standard input are read as
under its rule, or those that the bytes of a file encode. -/
def Provides (around : Surroundings) (session : Session) (path : String) (stored : List Char) :
    Prop :=
  if path = inputPath then
    if around.input.escapesBytes then Text.decodeEscaped session.input = stored
    else session.input = Text.utf8 stored
  else session.files.read around.current (Path.ofText path).text = .ok (Text.utf8 stored)

/-- The characters at a path with line feeds as line ends; the standard input leaves them as they
are if its rule says so. -/
def withLineEnds (rule : InputRule) (path : String) (stored : List Char) : List Char :=
  if path = inputPath ∧ rule.unifiesLineEnds = false then stored else Text.unifyNewlines stored

/-- What can be read without another kind of failure: on the standard input bytes that are well
formed, or any bytes if its rule has a place for those that are not, and at any other path whatever
is there, if every half of a surrogate pair in the path stands for a byte. -/
def IsGuarded (around : Surroundings) (session : Session) (path : String) : Prop :=
  if path = inputPath then
    around.input.escapesBytes = true ∨ Text.IsWellFormed session.input
  else ∀ c ∈ path.toList, Text.isSurrogate c = true → (Text.byteOfHalf? c).isSome = true

/-- The bytes of the standard input are a text or a failure of their own. -/
theorem fst_read_input_cases (around : Surroundings) (session : Session) :
    (IsGuarded around session inputPath ∧ ∃ stored, Provides around session inputPath stored ∧
      (read inputPath around session).1 =
        .ok (String.ofList (withLineEnds around.input inputPath stored))) ∨
    (¬IsGuarded around session inputPath ∧ ∃ problem,
      (read inputPath around session).1 = .error (.encoding problem) ∧
      Text.IsFaultOffset session.input problem.offset) := by
  have hends (stored : List Char) : withLineEnds around.input inputPath stored =
      if around.input.unifiesLineEnds then Text.unifyNewlines stored else stored := by
    unfold withLineEnds
    cases around.input.unifiesLineEnds <;> simp
  rw [fst_read_input]
  unfold IsGuarded Provides textOfInput
  simp only [if_true, hends]
  cases hescapes : around.input.escapesBytes with
  | true => exact .inl ⟨.inl rfl, _, rfl, rfl⟩
  | false =>
    simp only [Bool.false_eq_true, if_false, false_or]
    cases hdecode : Text.decode session.input with
    | ok stored =>
      have hstored := Text.decode_eq_ok_iff.mp hdecode
      exact .inl ⟨Text.isWellFormed_iff.mpr ⟨stored, hstored⟩, stored, hstored.symm, rfl⟩
    | error problem =>
      refine .inr ⟨?_, problem, rfl, Text.isFaultOffset_of_decode hdecode⟩
      rw [Text.isWellFormed_iff_decode, hdecode]
      rintro ⟨_, h⟩
      cases h

/-- Another path without null characters gives a text or a problem of the source, unless it has a
half of a surrogate pair that stands for no byte. -/
theorem fst_read_path_cases (around : Surroundings) (session : Session) (hpath : path ≠ inputPath)
    (hnull : '\x00' ∉ path.toList) :
    (∃ run, Text.unnamedRun? (Path.ofText path).text.toList = some run ∧
      (read path around session).1 = .error (.file (.unencodable run))) ∨
    (Text.unnamedRun? (Path.ofText path).text.toList = none ∧
      ((∃ text, (read path around session).1 = .ok text) ∨
        ∃ problem, (read path around session).1 = .error (.source problem))) := by
  cases hrun : Text.unnamedRun? (Path.ofText path).text.toList with
  | some run => exact .inl ⟨run, rfl, fst_read_of_unnamedRun? hpath hrun⟩
  | none =>
    refine .inr ⟨rfl, ?_⟩
    have hnull' : '\x00' ∉ (Path.ofText path).text.toList := by
      rwa [Path.mem_text_ofText (by decide) (by decide)]
    cases hfile : session.files.read around.current (Path.ofText path).text with
    | error problem =>
      have hsystem := FileTree.isOfSystem_of_read hrun hnull' hfile
      exact .inr (fst_read_of_isOfSystem hpath hfile hsystem)
    | ok bytes =>
      rw [fst_read_file hpath hfile]
      cases textOfBytes bytes with
      | ok text => exact .inl ⟨text, rfl⟩
      | error problem => exact .inr ⟨_, rfl⟩

/-- A text that is read has the characters that a path without null characters stands for, with
line feeds as line ends where its route makes them so. Reading ends with a text or a problem of the
source exactly where it is guarded. The other failures are those of decoding the standard input and
of passing the path to the system. -/
theorem read_outcome_cases (around : Surroundings) (session : Session)
    (hnull : '\x00' ∉ path.toList) :
    (∀ text, (read path around session).1 = .ok text → ∃ stored,
      Provides around session path stored ∧
        text = String.ofList (withLineEnds around.input path stored)) ∧
    (((∃ text, (read path around session).1 = .ok text) ∨
        ∃ problem, (read path around session).1 = .error (.source problem)) ↔
      IsGuarded around session path) ∧
    (¬IsGuarded around session path →
      if path = inputPath then
        ∃ problem, (read path around session).1 = .error (.encoding problem) ∧
          Text.IsFaultOffset session.input problem.offset
      else ∃ run, (read path around session).1 = .error (.file (.unencodable run))) := by
  by_cases hpath : path = inputPath
  · subst hpath
    rw [if_pos rfl]
    rcases fst_read_input_cases around session with
      ⟨hguarded, stored, hstored, hread⟩ | ⟨hunguarded, problem, hread, hoffset⟩
    · refine ⟨fun text h => ⟨stored, hstored, ?_⟩,
        ⟨fun _ => hguarded, fun _ => .inl ⟨_, hread⟩⟩, fun h => absurd hguarded h⟩
      exact (Except.ok.inj (hread.symm.trans h)).symm
    · rw [hread]
      refine ⟨fun _ => nofun, ⟨?_, fun h => absurd h hunguarded⟩, fun _ => ⟨problem, rfl, hoffset⟩⟩
      rintro (⟨_, h⟩ | ⟨_, h⟩) <;> cases h
  · unfold Provides IsGuarded withLineEnds
    simp only [hpath, if_false, false_and, ← unnamedRun?_text_ofText_eq_none_iff]
    refine ⟨fun text h => ?_, ?_⟩
    · rw [Action.read_eq_ofFile hpath] at h
      dsimp only at h
      exact ofFile_eq_ok h
    rcases fst_read_path_cases around session hpath hnull with
      ⟨run, hrun, hread⟩ | ⟨hnamed, hread⟩
    · rw [hread, hrun]
      refine ⟨⟨?_, nofun⟩, fun _ => ⟨run, rfl⟩⟩
      rintro (⟨_, h⟩ | ⟨_, h⟩) <;> cases h
    · exact ⟨⟨fun _ => hnamed, fun _ => hread⟩, fun h => absurd hnamed h⟩

/-- The first half of a surrogate pair alone in a path is no problem of the source. -/
theorem read_outcome_cases_lone_half :
    let around : Surroundings := .usual
    let path := String.ofList [Text.ofSurrogate 0xD800]
    '\x00' ∉ path.toList ∧
      ∃ run, (read path around (.start ⟨[]⟩ [])).1 = .error (.file (.unencodable run)) := by
  intro around path
  have hnull : '\x00' ∉ path.toList := by decide
  have hpath : path ≠ inputPath := by decide
  have hguarded : ¬IsGuarded around (.start ⟨[]⟩ []) path := by
    unfold IsGuarded
    rw [if_neg hpath]
    intro h
    exact absurd (h (Text.ofSurrogate 0xD800) (by decide) (by decide)) (by decide)
  have hfailure := (read_outcome_cases around (.start ⟨[]⟩ []) hnull).2.2 hguarded
  rw [if_neg hpath] at hfailure
  exact ⟨hnull, hfailure⟩

/-- A single byte that begins no character makes reading a standard input fail that has no place for
it, and not with a problem of the source. -/
theorem read_ill_formed_input :
    let around : Surroundings := .usual
    '\x00' ∉ inputPath.toList ∧
      (read inputPath around (.start ⟨[]⟩ [0xFF])).1 = .error (.encoding ⟨0xFF, 0, 1, .start⟩) := by
  refine ⟨by decide, ?_⟩
  decide +kernel

end Source

end OrderOfGrowth
