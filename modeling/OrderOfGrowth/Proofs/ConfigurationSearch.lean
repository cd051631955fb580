import OrderOfGrowth.Configuration
import OrderOfGrowth.Proofs.Encoding
import OrderOfGrowth.Proofs.FileContents
import OrderOfGrowth.Proofs.JsonLimits

/-!
# The search for a configuration

The candidates are looked at in their order. One that is not there, that cannot be opened as a file
or that is not JSON is passed over, and the first one that holds a value ends the search. But there
are files that are neither passed over nor taken: one that is no text, and one whose JSON goes
beyond the limits of the reader. They end the search with a failure, and so does a path that cannot
be looked up, because a name in it is too long or a directory on it may not be searched. The search
does not begin if the current directory is gone. This file says which value the search gives, and
when it fails.
-/

namespace OrderOfGrowth

/-- What is looked for holds of an item of a list, and every item in front of it is passed. -/
def IsReached {α : Type} (passed found : α → Prop) (items : List α) : Prop :=
  ∃ before item after, items = before ++ item :: after ∧ (∀ a ∈ before, passed a) ∧ found item

section

variable {α : Type} {passed found : α → Prop} {item : α} {items : List α}

/-- Nothing is reached in an empty list. -/
@[simp]
theorem not_isReached_nil : ¬IsReached passed found [] := by
  rintro ⟨before, item, after, hitems, -⟩
  exact List.append_ne_nil_of_right_ne_nil before (List.cons_ne_nil item after) hitems.symm

/-- What is reached in a list is its first item, or it is reached behind that item. -/
@[simp]
theorem isReached_cons_iff :
    IsReached passed found (item :: items) ↔
      found item ∨ passed item ∧ IsReached passed found items := by
  constructor
  · rintro ⟨before, a, after, hitems, hbefore, hfound⟩
    cases before with
    | nil =>
      obtain ⟨rfl, rfl⟩ := List.cons.inj hitems
      exact .inl hfound
    | cons b before =>
      obtain ⟨rfl, rfl⟩ := List.cons.inj hitems
      rw [List.forall_mem_cons] at hbefore
      exact .inr ⟨hbefore.1, before, a, after, rfl, hbefore.2, hfound⟩
  · rintro (hfound | ⟨hpassed, before, a, after, rfl, hbefore, hfound⟩)
    · exact ⟨[], item, items, rfl, by simp, hfound⟩
    · exact ⟨item :: before, a, after, rfl, List.forall_mem_cons.mpr ⟨hpassed, hbefore⟩, hfound⟩

/-- Whether something is reached depends on what holds of the items of the list. -/
theorem isReached_congr {other : α → Prop} (h : ∀ a ∈ items, found a ↔ other a) :
    IsReached passed found items ↔ IsReached passed other items := by
  induction items with
  | nil => simp
  | cons a items ih =>
    rw [List.forall_mem_cons] at h
    rw [isReached_cons_iff, isReached_cons_iff, h.1, ih h.2]

/-- What is reached is an item of the list. -/
theorem IsReached.exists_mem (h : IsReached passed found items) : ∃ a ∈ items, found a := by
  obtain ⟨before, a, after, rfl, -, hfound⟩ := h
  exact ⟨a, List.mem_append_cons_self, hfound⟩

end

namespace FileTree

variable {tree : FileTree} {current : Standpoint} {here : Location} {path : String}
  {names : List String}

/-- What can be read is there. -/
theorem exists?_of_read {bytes : List UInt8} (h : tree.read current path = .ok bytes) :
    tree.exists? current path = .ok true := by
  obtain ⟨location, hlocate, hcontent, -⟩ := read_eq_ok_iff.mp h
  have hthere : (tree.get? location).isSome = true := by
    unfold contentAt? at hcontent
    cases hnode : tree.get? location with
    | none => simp [hnode] at hcontent
    | some node => rfl
  rw [exists?, hlocate]
  simp [hthere]

/-- A walk that stops neither where nothing is nor at a file stops at a directory that may not be
searched or in front of a name that is too long. -/
theorem of_walk_eq_error {obstacle : Obstacle} (hmissing : obstacle ≠ .missing)
    (hfile : obstacle ≠ .notDirectory) (h : tree.walk current here names = .error obstacle) :
    (∃ location, tree.get? location = some .directory ∧
      current.denied .search location = true) ∨
      ∃ name ∈ names, maxNameBytes < (Text.nameBytes name.toList).length := by
  induction names generalizing here with
  | nil => cases h
  | cons name names ih =>
    -- a directory is passed along a name that is short enough
    have hrest {next : Location} (hnext : tree.walk current next names = .error obstacle) :
        (∃ location, tree.get? location = some .directory ∧
          current.denied .search location = true) ∨
          ∃ long ∈ name :: names, maxNameBytes < (Text.nameBytes long.toList).length :=
      (ih hnext).imp_right fun ⟨long, hmem, hlong⟩ => ⟨long, List.mem_cons_of_mem name hmem, hlong⟩
    unfold walk at h
    split at h
    · exact absurd (Except.error.inj h).symm hmissing
    · exact absurd (Except.error.inj h).symm hfile
    · next hnode =>
      split_ifs at h with hdenied hdot hdots hlong
      · exact .inl ⟨here, hnode, hdenied⟩
      · exact hrest h
      · exact hrest h
      · exact .inr ⟨name, List.mem_cons_self, hlong⟩
      · exact hrest h

/-- A written path that the file system can look up: neither the path nor a name in it is too long,
and every directory may be searched. -/
structure CanBeLookedUp (tree : FileTree) (current : Standpoint) (path : String) : Prop where
  short : (Text.nameBytes path.toList).length ≤ maxPathBytes
  names : ∀ name ∈ stepsOf path, (Text.nameBytes name.toList).length ≤ maxNameBytes
  searchable : ∀ location, tree.get? location = some .directory →
    current.denied .search location = false

/-- Of a path that can be looked up it can be said whether there is anything. -/
theorem CanBeLookedUp.exists?_ne_error (hpath : tree.CanBeLookedUp current path)
    (problem : FileProblem) : tree.exists? current path ≠ .error problem := by
  have hwalk {obstacle : Obstacle} {start : Location} (hmissing : obstacle ≠ .missing)
      (hfile : obstacle ≠ .notDirectory) :
      tree.walk current start (stepsOf path) ≠ .error obstacle := by
    intro h
    rcases of_walk_eq_error hmissing hfile h with ⟨location, hnode, hdenied⟩ | ⟨name, hmem, hlong⟩
    · exact absurd hdenied (by simp [hpath.searchable location hnode])
    · exact absurd (hpath.names name hmem) (Nat.not_le.mpr hlong)
  intro h
  unfold exists? locate at h
  cases hrun : Text.unnamedRun? path.toList with
  | some run => simp [hrun] at h
  | none =>
    simp only [hrun, if_neg (Nat.not_lt.mpr hpath.short)] at h
    generalize (if isAbsolute path then [] else current.location) = start at h
    cases hreached : tree.walk current start (stepsOf path) with
    | ok location => split_ifs at h; simp_all
    | error obstacle =>
      cases obstacle with
      | missing => split_ifs at h; simp_all
      | notDirectory => split_ifs at h; simp_all
      | denied => exact absurd hreached (hwalk nofun nofun)
      | tooLong => exact absurd hreached (hwalk nofun nofun)

end FileTree

namespace Configuration

variable {tree : FileTree} {around : Surroundings} {path : String} {paths : List String}
  {value : Json} {text : List Char} {failure : Failure}

/-- At a path there is a file that is a text; its line ends count as line feeds. -/
def HoldsText (tree : FileTree) (around : Surroundings) (path : String) (text : List Char) : Prop :=
  ∃ stored, tree.read around.current path = .ok (Text.utf8 stored) ∧
    Text.unifyNewlines stored = text

/-- At a path there is a file that holds a JSON value. -/
def Holds (tree : FileTree) (around : Surroundings) (path : String) (value : Json) : Prop :=
  ∃ text, HoldsText tree around path text ∧ Json.read around.nesting text = .ok value

/-- A path that the search goes past: there is nothing, or nothing that can be opened as a file, or
a text that is not JSON. -/
inductive IsPassedOver (tree : FileTree) (around : Surroundings) (path : String) : Prop
  | missing (h : tree.exists? around.current path = .ok false)
  | noFile {problem : FileProblem} (hthere : tree.exists? around.current path = .ok true)
      (h : tree.read around.current path = .error problem)
  | malformed {text : List Char} (htext : HoldsText tree around path text)
      (h : Json.read around.nesting text = .error .malformed)

/-- A path that the search fails at, with the failure: it cannot be looked up, its file is no text,
or the JSON of the file goes beyond the limits of the reader. -/
inductive Stops (tree : FileTree) (around : Surroundings) (path : String) : Failure → Prop
  | unsearchable {problem : FileProblem} (h : tree.exists? around.current path = .error problem) :
    Stops tree around path (.file problem)
  | noText {bytes : List UInt8} {problem : Text.Utf8Problem}
      (hread : tree.read around.current path = .ok bytes) (h : Text.decode bytes = .error problem) :
    Stops tree around path (.encoding problem)
  | tooManyDigits {text : List Char} {count : ℕ} (htext : HoldsText tree around path text)
      (h : Json.read around.nesting text = .error (.tooManyDigits count)) :
    Stops tree around path (.arithmetic (.tooManyDigits count))
  | nestedTooDeep {text : List Char} {container : String} (htext : HoldsText tree around path text)
      (h : Json.read around.nesting text = .error (.nestedTooDeep container)) :
    Stops tree around path (.nestedTooDeep container)

/-- A file that is a text is read as the text says. -/
theorem HoldsText.tryCandidate_eq (h : HoldsText tree around path text) :
    tryCandidate around tree path =
      match Json.read around.nesting text with
      | .ok value => .ok (some value)
      | .error .malformed => .ok none
      | .error (.tooManyDigits count) => .error (.arithmetic (.tooManyDigits count))
      | .error (.nestedTooDeep container) => .error (.nestedTooDeep container) := by
  obtain ⟨stored, hread, rfl⟩ := h
  have htext : textOfBytes (Text.utf8 stored) =
      .ok (String.ofList (Text.unifyNewlines stored)) := by
    rw [textOfBytes, Text.decode_eq_ok_iff.mpr rfl]
    rfl
  unfold tryCandidate
  rcases hjson : Json.read around.nesting (Text.unifyNewlines stored)
    with (_ | count | container) | value <;>
    simp only [FileTree.exists?_of_read hread, hread, htext, String.toList_ofList, hjson]

/-- A file that holds a value is taken. -/
theorem Holds.tryCandidate_eq (h : Holds tree around path value) :
    tryCandidate around tree path = .ok (some value) := by
  obtain ⟨text, htext, hread⟩ := h
  rw [htext.tryCandidate_eq, hread]

/-- What is passed over is not taken. -/
theorem IsPassedOver.tryCandidate_eq (h : IsPassedOver tree around path) :
    tryCandidate around tree path = .ok none := by
  cases h with
  | missing h => simp only [tryCandidate, h]
  | noFile hthere h => simp only [tryCandidate, hthere, h]
  | malformed htext h => rw [htext.tryCandidate_eq, h]

/-- A path that stops the search fails. -/
theorem Stops.tryCandidate_eq (h : Stops tree around path failure) :
    tryCandidate around tree path = .error failure := by
  cases h with
  | unsearchable h => simp only [tryCandidate, h]
  | noText hread h =>
    simp only [tryCandidate, FileTree.exists?_of_read hread, hread, textOfBytes, h, Except.map]
  | tooManyDigits htext h => rw [htext.tryCandidate_eq, h]
  | nestedTooDeep htext h => rw [htext.tryCandidate_eq, h]

/-- A candidate is taken, passed over or stops the search. -/
theorem candidate_cases (tree : FileTree) (around : Surroundings) (path : String) :
    (∃ value, Holds tree around path value) ∨ IsPassedOver tree around path ∨
      ∃ failure, Stops tree around path failure := by
  cases hthere : tree.exists? around.current path with
  | error problem => exact .inr (.inr ⟨_, .unsearchable hthere⟩)
  | ok there =>
    cases there with
    | false => exact .inr (.inl (.missing hthere))
    | true =>
      cases hbytes : tree.read around.current path with
      | error problem => exact .inr (.inl (.noFile hthere hbytes))
      | ok bytes =>
        cases hdecoded : Text.decode bytes with
        | error problem => exact .inr (.inr ⟨_, .noText hbytes hdecoded⟩)
        | ok stored =>
          obtain rfl := Text.decode_eq_ok_iff.mp hdecoded
          have htext : HoldsText tree around path (Text.unifyNewlines stored) :=
            ⟨stored, hbytes, rfl⟩
          cases hread : Json.read around.nesting (Text.unifyNewlines stored) with
          | ok value => exact .inl ⟨value, _, htext, hread⟩
          | error problem =>
            cases problem with
            | malformed => exact .inr (.inl (.malformed htext hread))
            | tooManyDigits count => exact .inr (.inr ⟨_, .tooManyDigits htext hread⟩)
            | nestedTooDeep container => exact .inr (.inr ⟨_, .nestedTooDeep htext hread⟩)

/-- What a candidate comes to says what it is. -/
theorem tryCandidate_eq_iff (tree : FileTree) (around : Surroundings) (path : String) :
    (∀ value, Holds tree around path value ↔
      tryCandidate around tree path = .ok (some value)) ∧
    (IsPassedOver tree around path ↔ tryCandidate around tree path = .ok none) ∧
    ∀ failure, Stops tree around path failure ↔
      tryCandidate around tree path = .error failure := by
  refine ⟨fun value => ⟨Holds.tryCandidate_eq, fun h => ?_⟩,
    ⟨IsPassedOver.tryCandidate_eq, fun h => ?_⟩,
    fun failure => ⟨Stops.tryCandidate_eq, fun h => ?_⟩⟩
  all_goals
    obtain ⟨found, hcase⟩ | hcase | ⟨found, hcase⟩ := candidate_cases tree around path
    all_goals
      have hsame := h.symm.trans hcase.tryCandidate_eq
      cases hsame <;> exact hcase

/-- A path at which no file holds a value. -/
def HoldsNothing (tree : FileTree) (around : Surroundings) (path : String) : Prop :=
  ∀ value, ¬Holds tree around path value

/-- Where a path is passed over, no value is held. -/
theorem IsPassedOver.holdsNothing (h : IsPassedOver tree around path) :
    HoldsNothing tree around path := by
  intro value hvalue
  cases hvalue.tryCandidate_eq.symm.trans h.tryCandidate_eq

/-- Where the search is stopped, no value is held. -/
theorem Stops.holdsNothing (h : Stops tree around path failure) :
    HoldsNothing tree around path := by
  intro value hvalue
  cases hvalue.tryCandidate_eq.symm.trans h.tryCandidate_eq

/-- The value of the first path that holds one, or the empty object if none does. -/
def IsFirstHeld (tree : FileTree) (around : Surroundings) (paths : List String) (value : Json) :
    Prop :=
  IsReached (HoldsNothing tree around) (Holds tree around · value) paths ∨
    (∀ path ∈ paths, HoldsNothing tree around path) ∧ value = .object []

/-- A path that the search fails at although it leads to no file or to a text: it cannot be looked
up, or the JSON of the text goes beyond the limits of the reader. -/
def IsRefused (tree : FileTree) (around : Surroundings) (path : String) : Prop :=
  (∃ problem, tree.exists? around.current path = .error problem) ∨
    ∃ text problem, HoldsText tree around path text ∧
      Json.read around.nesting text = .error problem ∧ problem ≠ .malformed

/-- Where a file is a text if there is one, only what is refused stops the search. -/
theorem exists_stops_iff_isRefused
    (htexts : ∀ bytes, tree.read around.current path = .ok bytes → ∃ text, Text.utf8 text = bytes) :
    (∃ failure, Stops tree around path failure) ↔ IsRefused tree around path := by
  constructor
  · rintro ⟨failure, hstops⟩
    cases hstops with
    | unsearchable h => exact .inl ⟨_, h⟩
    | noText hread h =>
      obtain ⟨text, hbytes⟩ := htexts _ hread
      rw [Text.decode_eq_ok_iff.mpr hbytes] at h
      cases h
    | tooManyDigits htext h => exact .inr ⟨_, _, htext, h, by simp⟩
    | nestedTooDeep htext h => exact .inr ⟨_, _, htext, h, by simp⟩
  · rintro (⟨problem, h⟩ | ⟨text, problem, htext, h, hother⟩)
    · exact ⟨_, .unsearchable h⟩
    · cases problem with
      | malformed => exact absurd rfl hother
      | tooManyDigits count => exact ⟨_, .tooManyDigits htext h⟩
      | nestedTooDeep container => exact ⟨_, .nestedTooDeep htext h⟩

/-- The search fails at the first path that is not passed over, if that one stops it. -/
theorem search_eq_error_iff :
    search around tree paths = .error failure ↔
      IsReached (IsPassedOver tree around) (Stops tree around · failure) paths := by
  induction paths with
  | nil => simp [search]
  | cons path paths ih =>
    obtain ⟨-, hpassed, hstops⟩ := tryCandidate_eq_iff tree around path
    rw [isReached_cons_iff, hpassed, hstops, ← ih, search]
    rcases tryCandidate around tree path with problem | (_ | value) <;>
      simp [bind, Except.bind, pure, Except.pure]

/-- The search gives the value of the first path that holds one, or the empty object if none does,
unless a path that stops it stands in front of that one. -/
theorem search_eq_ok_iff :
    search around tree paths = .ok value ↔ IsFirstHeld tree around paths value ∧
      ¬IsReached (HoldsNothing tree around)
        (fun path => ∃ failure, Stops tree around path failure) paths := by
  unfold IsFirstHeld
  induction paths with
  | nil => simp [search, eq_comm]
  | cons path paths ih =>
    obtain ⟨hheld, -, hstops⟩ := tryCandidate_eq_iff tree around path
    rw [isReached_cons_iff, isReached_cons_iff, List.forall_mem_cons, search]
    unfold HoldsNothing at ih ⊢
    simp only [hheld, hstops]
    -- The first candidate stops the search, is passed over or is taken, and never two of these.
    rcases tryCandidate around tree path with problem | (_ | found)
    · simp [bind, Except.bind]
    · simpa [bind, Except.bind] using ih
    · simp [bind, Except.bind, pure, Except.pure]

/-- There is always a value that is the first one, or the empty object in its place. -/
theorem exists_isFirstHeld (tree : FileTree) (around : Surroundings) (paths : List String) :
    ∃ value, IsFirstHeld tree around paths value := by
  unfold IsFirstHeld
  induction paths with
  | nil => exact ⟨.object [], .inr ⟨by simp, rfl⟩⟩
  | cons path paths ih =>
    simp only [isReached_cons_iff, List.forall_mem_cons]
    by_cases hheld : ∃ value, Holds tree around path value
    · obtain ⟨value, hvalue⟩ := hheld
      exact ⟨value, .inl (.inl hvalue)⟩
    · have hnothing : HoldsNothing tree around path := fun value hvalue => hheld ⟨value, hvalue⟩
      obtain ⟨value, hfirst | ⟨hnone, rfl⟩⟩ := ih
      · exact ⟨value, .inl (.inr ⟨hnothing, hfirst⟩)⟩
      · exact ⟨_, .inr ⟨⟨hnothing, hnone⟩, rfl⟩⟩

/-- Two file trees are the same at a path: they both have something there or not, and what can be
read is the same. -/
def SameAt (tree other : FileTree) (around : Surroundings) (path : String) : Prop :=
  other.exists? around.current path = tree.exists? around.current path ∧
    other.read around.current path = tree.read around.current path

/-- What stands behind a path that holds a value does not matter. -/
theorem search_of_sameAt {other : FileTree} {before after : List String}
    (hbefore : ∀ p ∈ before, SameAt tree other around p) (hpath : SameAt tree other around path)
    (hvalue : Holds tree around path value) :
    search around other (before ++ path :: after) =
      search around tree (before ++ path :: after) := by
  have hsame {p : String} (h : SameAt tree other around p) :
      tryCandidate around other p = tryCandidate around tree p := by
    unfold tryCandidate
    rw [h.1, h.2]
  induction before with
  | nil =>
    rw [List.nil_append, search, search, hsame hpath, hvalue.tryCandidate_eq]
    rfl
  | cons p before ih =>
    rw [List.forall_mem_cons] at hbefore
    rw [List.cons_append, search, search, hsame hbefore.1, ih hbefore.2]

/-- The current directory is there. -/
def HasCurrentDirectory (tree : FileTree) (around : Surroundings) : Prop :=
  tree.get? around.current.location = some .directory

/-- The search begins if the current directory is there. -/
theorem load_of_hasCurrentDirectory (given : Option String) {session : Session}
    (h : HasCurrentDirectory session.files around) :
    (load given around session).1 = search around session.files (candidates around given) := by
  unfold load
  rw [Action.bind_of_eq_ok rfl, Action.bind_of_eq_ok rfl]
  unfold HasCurrentDirectory at h
  rw [if_pos h]
  rfl

/-- Without a current directory loading fails. -/
theorem load_of_not_hasCurrentDirectory (given : Option String) {session : Session}
    (h : ¬HasCurrentDirectory session.files around) :
    (load given around session).1 = .error (.file .noCurrentDirectory) := by
  unfold load
  rw [Action.bind_of_eq_ok rfl, Action.bind_of_eq_ok rfl]
  unfold HasCurrentDirectory at h
  rw [if_neg h]
  rfl

/-- The value of the first candidate that holds one is loaded, or the empty object if none does,
exactly if the current directory is there and no candidate that is refused stands in front of it;
and as long as this is so, something is loaded. Files of candidates behind the first one that holds
a value do not matter. -/
theorem load_takes_first_held {given : Option String} {around : Surroundings} {session : Session}
    (htexts : ∀ path ∈ candidates around given, ∀ bytes,
      session.files.read around.current path = .ok bytes → ∃ text, Text.utf8 text = bytes) :
    (∀ value, (load given around session).1 = .ok value ↔
      HasCurrentDirectory session.files around ∧
        IsFirstHeld session.files around (candidates around given) value ∧
        ¬IsReached (HoldsNothing session.files around)
          (IsRefused session.files around) (candidates around given)) ∧
    (HasCurrentDirectory session.files around →
      ¬IsReached (HoldsNothing session.files around)
        (IsRefused session.files around) (candidates around given) →
      ∃ value, (load given around session).1 = .ok value) ∧
    ∀ before path after value, candidates around given = before ++ path :: after →
      Holds session.files around path value →
      ∀ files, (HasCurrentDirectory files around ↔ HasCurrentDirectory session.files around) →
        (∀ p ∈ before, SameAt session.files files around p) →
        SameAt session.files files around path →
        (load given around { session with files := files }).1 = (load given around session).1 := by
  have hload (value : Json) : (load given around session).1 = .ok value ↔
      HasCurrentDirectory session.files around ∧
        IsFirstHeld session.files around (candidates around given) value ∧
        ¬IsReached (HoldsNothing session.files around)
          (IsRefused session.files around) (candidates around given) := by
    rw [← isReached_congr fun path hpath => exists_stops_iff_isRefused (htexts path hpath),
      ← search_eq_ok_iff]
    by_cases hcurrent : HasCurrentDirectory session.files around
    · simp [load_of_hasCurrentDirectory given hcurrent, hcurrent]
    · simp [load_of_not_hasCurrentDirectory given hcurrent, hcurrent]
  refine ⟨hload, fun hcurrent hnone => ?_, ?_⟩
  · obtain ⟨value, hvalue⟩ := exists_isFirstHeld session.files around (candidates around given)
    exact ⟨value, (hload value).mpr ⟨hcurrent, hvalue, hnone⟩⟩
  · intro before path after value hpaths hvalue files hsame hbefore hpath
    by_cases hcurrent : HasCurrentDirectory session.files around
    · rw [load_of_hasCurrentDirectory given hcurrent,
        load_of_hasCurrentDirectory given (hsame.mpr hcurrent), hpaths]
      exact search_of_sameAt hbefore hpath hvalue
    · rw [load_of_not_hasCurrentDirectory given hcurrent,
        load_of_not_hasCurrentDirectory given fun h => hcurrent (hsame.mp h)]

/-- A directory in place of the given file, and a brace that is left open in the current directory:
the file in the home directory is loaded. -/
theorem load_takes_first_held_home :
    let around : Surroundings := .usual
    let text := ['\x7b', '"', 'd', 'e', 'b', 'u', 'g', '"', ':', 't', 'r', 'u', 'e', '\x7d']
    let session : Session := .start ⟨[(["work"], .directory), (["work", "my.json"], .directory),
      (["work", "complexity_cli_config.json"], .file (Text.utf8 ['\x7b'])),
      (["home"], .directory),
      (["home", ".complexity_cli_config.json"], .file (Text.utf8 text))]⟩ []
    let value : Json := .object [("debug", .bool true)]
    (∀ path ∈ candidates around (some "my.json"), ∀ bytes,
      session.files.read around.current path = .ok bytes → ∃ text, Text.utf8 text = bytes) ∧
    (load (some "my.json") around session).1 = .ok value ∧
    IsFirstHeld session.files around (candidates around (some "my.json")) value := by
  intro around text session value
  have hpaths : candidates around (some "my.json") = ["my.json",
      "/work/complexity_cli_config.json", "/home/.complexity_cli_config.json"] := by decide +kernel
  have hgiven : session.files.read around.current "my.json" = .error (.isDirectory "my.json") := rfl
  have hwork : session.files.read around.current "/work/complexity_cli_config.json" =
      .ok (Text.utf8 ['\x7b']) := rfl
  have hhome : session.files.read around.current "/home/.complexity_cli_config.json" =
      .ok (Text.utf8 text) := rfl
  have htexts : ∀ path ∈ candidates around (some "my.json"), ∀ bytes,
      session.files.read around.current path = .ok bytes → ∃ text, Text.utf8 text = bytes := by
    simp only [hpaths, List.forall_mem_cons, hgiven, hwork, hhome]
    refine ⟨?_, ?_, ?_, by simp⟩
    · rintro bytes ⟨⟩
    · rintro bytes ⟨⟩
      exact ⟨_, rfl⟩
    · rintro bytes ⟨⟩
      exact ⟨_, rfl⟩
  have hdirectory : IsPassedOver session.files around "my.json" := .noFile rfl hgiven
  have hbrace : Json.read around.nesting ['\x7b'] = .error .malformed := rfl
  have hopen : IsPassedOver session.files around "/work/complexity_cli_config.json" :=
    .malformed ⟨['\x7b'], hwork, rfl⟩ hbrace
  have hread : Json.read around.nesting text = .ok value := rfl
  have hheld : Holds session.files around "/home/.complexity_cli_config.json" value :=
    ⟨text, ⟨text, hhome, rfl⟩, hread⟩
  have hcurrent : HasCurrentDirectory session.files around := rfl
  have hvalue : (load (some "my.json") around session).1 = .ok value := by
    rw [load_of_hasCurrentDirectory _ hcurrent]
    simp only [hpaths, search, hdirectory.tryCandidate_eq, hopen.tryCandidate_eq,
      hheld.tryCandidate_eq]
    rfl
  exact ⟨htexts, hvalue, (((load_takes_first_held htexts).1 value).mp hvalue).2.1⟩

/-- A file that is nothing but a number with too many digits is a text, and no candidate holds a
value; but the empty object is not loaded. -/
theorem load_text_too_many_digits :
    let around : Surroundings := .usual
    let row := List.replicate 4301 '1'
    let session : Session := .start ⟨[(["work"], .directory),
      (["work", "complexity_cli_config.json"], .file (Text.utf8 row))]⟩ []
    (∀ path ∈ candidates around none, ∀ bytes,
      session.files.read around.current path = .ok bytes → ∃ text, Text.utf8 text = bytes) ∧
    IsFirstHeld session.files around (candidates around none) (.object []) ∧
    (load none around session).1 = .error (.arithmetic (.tooManyDigits 4301)) := by
  intro around row session
  have hwork : session.files.read around.current "/work/complexity_cli_config.json" =
      .ok (Text.utf8 row) := rfl
  have hhome : session.files.read around.current "/home/.complexity_cli_config.json" =
      .error (.missing "/home/.complexity_cli_config.json") := rfl
  have hpaths : candidates around none =
      ["/work/complexity_cli_config.json", "/home/.complexity_cli_config.json"] := by decide +kernel
  -- The row is too long to be read by evaluation: it is refused as every such row is.
  have hdigits : ∀ c ∈ row, c = '1' := fun c hc => List.eq_of_mem_replicate hc
  have hlength : row.length = 4301 := List.length_replicate
  have hread : Json.read around.nesting row = .error (.tooManyDigits 4301) := by
    rw [← hlength]
    refine Json.read_long_row (fun c hc => hdigits c hc ▸ rfl) ?_ (by rw [hlength]; decide) _
    simp [row]
  have hstops : Stops session.files around "/work/complexity_cli_config.json"
      (.arithmetic (.tooManyDigits 4301)) := by
    refine .tooManyDigits ⟨row, hwork, Text.unifyNewlines_of_notMem fun hreturn => ?_⟩ hread
    exact absurd (hdigits _ hreturn) (by decide)
  have hcurrent : HasCurrentDirectory session.files around := rfl
  have hmissing : IsPassedOver session.files around "/home/.complexity_cli_config.json" :=
    .missing rfl
  refine ⟨?_, .inr ⟨?_, rfl⟩, ?_⟩
  · simp only [hpaths, List.forall_mem_cons, hwork, hhome]
    refine ⟨?_, by simp, by simp⟩
    rintro bytes ⟨⟩
    exact ⟨row, rfl⟩
  · simp only [hpaths, List.forall_mem_cons]
    exact ⟨hstops.holdsNothing, hmissing.holdsNothing, by simp⟩
  · rw [load_of_hasCurrentDirectory none hcurrent, hpaths, search_eq_error_iff]
    exact ⟨[], _, _, rfl, by simp, hstops⟩

/-- A path that can be looked up and leads to no file or to a text within the limits of the
reader. -/
structure IsHarmless (tree : FileTree) (around : Surroundings) (path : String) : Prop where
  lookup : tree.CanBeLookedUp around.current path
  text : ∀ bytes, tree.read around.current path = .ok bytes → ∃ stored, Text.utf8 stored = bytes ∧
    (∀ count, ¬Json.HasLongRow (Text.unifyNewlines stored) count) ∧
    (Text.unifyNewlines stored).countP Json.opens ≤ around.nesting

/-- The search does not fail at a harmless path. -/
theorem IsHarmless.not_stops (h : IsHarmless tree around path) :
    ¬Stops tree around path failure := by
  have htext {text : List Char} (hholds : HoldsText tree around path text) :
      (∀ count, ¬Json.HasLongRow text count) ∧ text.countP Json.opens ≤ around.nesting := by
    obtain ⟨stored, hread, rfl⟩ := hholds
    obtain ⟨found, hbytes, hlimits⟩ := h.text _ hread
    obtain rfl := Text.utf8_injective hbytes
    exact hlimits
  rintro (hpath | ⟨hread, hbytes⟩ | ⟨hholds, hrefused⟩ | ⟨hholds, hrefused⟩)
  · exact h.lookup.exists?_ne_error _ hpath
  · obtain ⟨stored, hstored, -⟩ := h.text _ hread
    rw [Text.decode_eq_ok_iff.mpr hstored] at hbytes
    cases hbytes
  · exact (htext hholds).1 _ (Json.shows_of_read_eq_error hrefused)
  · exact absurd (htext hholds).2 (Nat.not_le.mpr (Json.shows_of_read_eq_error hrefused))

/-- Loading fails exactly if the current directory is gone, or a candidate stops the search and all
candidates in front of that one are passed over, and then as that candidate says. If the current
directory is there and all candidates can be looked up and lead to no files or to texts without long
rows of digits and with few brackets, something is loaded, whatever the texts are. -/
theorem load_fails_iff (given : Option String) (around : Surroundings) (session : Session) :
    (∀ failure, (load given around session).1 = .error failure ↔
      ¬HasCurrentDirectory session.files around ∧ failure = .file .noCurrentDirectory ∨
        HasCurrentDirectory session.files around ∧
          IsReached (IsPassedOver session.files around)
            (Stops session.files around · failure) (candidates around given)) ∧
    (HasCurrentDirectory session.files around →
      (∀ path ∈ candidates around given, IsHarmless session.files around path) →
        ∃ value, (load given around session).1 = .ok value) := by
  by_cases hcurrent : HasCurrentDirectory session.files around
  · rw [load_of_hasCurrentDirectory given hcurrent]
    refine ⟨fun failure => by simp [hcurrent, search_eq_error_iff], fun _ hharmless => ?_⟩
    cases hresult : search around session.files (candidates around given) with
    | ok value => exact ⟨value, rfl⟩
    | error failure =>
      obtain ⟨path, hpath, hstops⟩ := (search_eq_error_iff.mp hresult).exists_mem
      exact absurd hstops (hharmless path hpath).not_stops
  · rw [load_of_not_hasCurrentDirectory given hcurrent]
    exact ⟨fun failure => by simp [hcurrent, eq_comm], fun h => absurd h hcurrent⟩

/-- A brace that is left open in the current directory and no file in the home directory: something
is loaded. -/
theorem load_fails_iff_open_brace :
    let around : Surroundings := .usual
    let session : Session := .start ⟨[(["work"], .directory),
      (["work", "complexity_cli_config.json"], .file (Text.utf8 ['\x7b']))]⟩ []
    HasCurrentDirectory session.files around ∧
      (∀ path ∈ candidates around none, IsHarmless session.files around path) ∧
      ∃ value, (load none around session).1 = .ok value := by
  intro around session
  have hcurrent : HasCurrentDirectory session.files around := rfl
  have hpaths : candidates around none =
      ["/work/complexity_cli_config.json", "/home/.complexity_cli_config.json"] := by decide +kernel
  have hwork : session.files.read around.current "/work/complexity_cli_config.json" =
      .ok (Text.utf8 ['\x7b']) := rfl
  have hhome : session.files.read around.current "/home/.complexity_cli_config.json" =
      .error (.missing "/home/.complexity_cli_config.json") := rfl
  have hlookup : ∀ path ∈ ["/work/complexity_cli_config.json", "/home/.complexity_cli_config.json"],
      session.files.CanBeLookedUp around.current path := by
    intro path hpath
    have hshort : ∀ path ∈
        ["/work/complexity_cli_config.json", "/home/.complexity_cli_config.json"],
        (Text.nameBytes path.toList).length ≤ FileTree.maxPathBytes ∧
          ∀ name ∈ FileTree.stepsOf path,
            (Text.nameBytes name.toList).length ≤ FileTree.maxNameBytes := by decide +kernel
    exact ⟨(hshort path hpath).1, (hshort path hpath).2, fun _ _ => rfl⟩
  have hharmless : ∀ path ∈ candidates around none, IsHarmless session.files around path := by
    rw [hpaths]
    intro path hpath
    refine ⟨hlookup path hpath, fun bytes hread => ?_⟩
    simp only [List.mem_cons, List.not_mem_nil, or_false] at hpath
    rcases hpath with rfl | rfl
    · obtain rfl := Except.ok.inj (hwork.symm.trans hread)
      refine ⟨['\x7b'], rfl, ?_, by decide⟩
      rintro count ⟨hlong, row, hlength, -, hwithin⟩
      have hshort := hwithin.length_le
      rw [hlength, Text.unifyNewlines_of_notMem (by decide), List.length_singleton] at hshort
      exact absurd (hlong.trans_le hshort) (by decide)
    · cases hhome.symm.trans hread
  exact ⟨hcurrent, hharmless, (load_fails_iff none around session).2 hcurrent hharmless⟩

/-- A file in the current directory that is no text stops the search. -/
theorem load_fails_no_text :
    let session : Session := .start ⟨[(["work"], .directory),
      (["work", "complexity_cli_config.json"], .file [0xFF])]⟩ []
    (load none .usual session).1 = .error (.encoding ⟨0xFF, 0, 1, .start⟩) := by
  rfl

end Configuration

end OrderOfGrowth
