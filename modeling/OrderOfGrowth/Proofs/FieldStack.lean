import OrderOfGrowth.Proofs.Effects
import OrderOfGrowth.Proofs.Spellings

/-!
# Fields as a stack

The fields of the analysis are one table that is changed where a block begins and put back where it
ends. This file reads runs with any nesting of blocks, records and failures, and proves that a
record has for each field the value of the innermost block or call around it that has one, as if the
blocks lay on a stack. A failure that leaves blocks, and is met further out or not at all, takes
their values with it.
-/

namespace OrderOfGrowth

/-- The value that updates give to a field; of several the last one counts. -/
def givenValue (field : String) : FieldUpdates → Option String
  | [] => none
  | (name, value) :: rest => (givenValue field rest).or (if name = field then value else none)

/-- The value that the innermost of several updates gives to a field, among those that give one. -/
def innermostValue (field : String) (frames : List FieldUpdates) : Option String :=
  frames.findSome? (givenValue field)

/-- A run with records, blocks with fields of their own, timed handlers, failures, and places where
a failure is met. -/
inductive LoggedRun where
  | done
  | record (level : LogLevel) (message : String) (updates : FieldUpdates)
  | fail (failure : Failure)
  | andThen (first second : LoggedRun)
  | within (updates : FieldUpdates) (body : LoggedRun)
  | timed (name : String) (language : Option String) (body : LoggedRun)
  | attempt (body : LoggedRun)

/-- A record that a run makes: its level, its message, and the updates of the call and of the blocks
around it from the innermost to the outermost. -/
structure LogCall where
  level : LogLevel
  message : String
  frames : List FieldUpdates

namespace LoggedRun

/-- What is done in a run. -/
def action : LoggedRun → Action Unit
  | .done => pure ()
  | .record level message updates => Action.log level message updates
  | .fail failure => Action.fail failure
  | .andThen first second => do
    first.action
    second.action
  | .within updates body => Action.withFields updates body.action
  | .timed name language body => Action.timed name language body.action
  | .attempt body => do
    let _ ← Action.attempt body.action
    return

/-- How a run ends. -/
def outcome : LoggedRun → Except Failure Unit
  | .done => .ok ()
  | .record .. => .ok ()
  | .fail failure => .error failure
  | .andThen first second => first.outcome >>= fun _ => second.outcome
  | .within _ body => body.outcome
  | .timed _ _ body => body.outcome
  | .attempt _ => .ok ()

/-- The records of a run in their order. What stands behind a failure makes none. -/
def calls (around : Surroundings) (frames : List FieldUpdates) : LoggedRun → List LogCall
  | .done => []
  | .record level message updates => [⟨level, message, updates :: frames⟩]
  | .fail _ => []
  | .andThen first second =>
    first.calls around frames ++ if first.outcome.isOk then second.calls around frames else []
  | .within updates body => body.calls around (updates :: frames)
  | .timed name language body =>
    let frames := [("language", language)] :: frames
    let (level, message) := Action.closing name around body.outcome
    body.calls around frames ++ [⟨level, message, frames⟩]
  | .attempt body => body.calls around frames

end LoggedRun

namespace LogCall

/-- The value of a field at a call: the innermost one around it, or that from before the run. -/
def value (before : Keyed String) (call : LogCall) (field : String) : Option String :=
  (innermostValue field call.frames).or (before.lookup field)

/-- The record of a call. -/
def record (before : Keyed String) (call : LogCall) : LogRecord where
  level := call.level
  message := call.message
  language := call.value before "language"
  source := call.value before "source"
  complexity := call.value before "complexity"

end LogCall

/-- Updated fields have the values of the updates, and else the values they had. -/
theorem lookup_updateFields (field : String) (fields : Keyed String) (updates : FieldUpdates) :
    (updateFields fields updates).lookup field =
      (givenValue field updates).or (fields.lookup field) := by
  induction updates generalizing fields with
  | nil => rfl
  | cons update rest ih =>
    obtain ⟨name, value⟩ := update
    cases value with
    | none =>
      have hstep : updateFields fields ((name, none) :: rest) = updateFields fields rest := rfl
      rw [hstep, ih, givenValue]
      simp
    | some value =>
      have hstep : updateFields fields ((name, some value) :: rest) =
        updateFields (fields.store name value) rest := rfl
      rw [hstep, ih, givenValue, Option.or_assoc, Keyed.lookup_store]
      by_cases hname : name = field
      · simp [hname]
      · simp [hname, Ne.symm hname]

/-- Fields have the values that a stack of updates has left of those from before. -/
def Stacked (before : Keyed String) (frames : List FieldUpdates) (fields : Keyed String) : Prop :=
  ∀ field, fields.lookup field = (innermostValue field frames).or (before.lookup field)

/-- Nothing has been changed under an empty stack. -/
theorem stacked_nil (fields : Keyed String) : Stacked fields [] fields := fun _ => rfl

/-- Changed fields have one more update on the stack. -/
theorem Stacked.updateFields {before fields : Keyed String} {frames : List FieldUpdates}
    (h : Stacked before frames fields) (updates : FieldUpdates) :
    Stacked before (updates :: frames) (updateFields fields updates) := by
  intro field
  rw [lookup_updateFields, h field, ← Option.or_assoc]
  congr 1
  rw [innermostValue, innermostValue, List.findSome?_cons]
  cases givenValue field updates <;> rfl

/-- A record under a stack is that of a call with this stack. -/
theorem Stacked.make_eq {before fields : Keyed String} {frames : List FieldUpdates}
    (h : Stacked before frames fields) (level : LogLevel) (message : String) :
    LogRecord.make fields level message = LogCall.record before ⟨level, message, frames⟩ := by
  unfold LogRecord.make
  rw [h, h, h]
  rfl

namespace Action

variable {α β : Type} {before : Keyed String} {around : Surroundings} {frames : List FieldUpdates}

/-- Wherever the fields are those of a stack, an action has this outcome, puts the records of these
calls behind those from before, and leaves the fields as they were. -/
def Makes (before : Keyed String) (around : Surroundings) (frames : List FieldUpdates)
    (outcome : Except Failure α) (calls : List LogCall) (action : Action α) : Prop :=
  ∀ session : Session, Stacked before frames session.fields →
    ∃ after, action around session = (outcome, after) ∧ after.fields = session.fields ∧
      after.records = session.records ++ calls.map (LogCall.record before)

/-- A computation without effects makes no records. -/
theorem makes_lift (computed : Except Failure α) :
    Makes before around frames computed [] (lift computed) :=
  fun session _ => ⟨session, rfl, rfl, (List.append_nil _).symm⟩

/-- Actions in sequence make their records in sequence. -/
theorem Makes.bind {first : Action α} {next : α → Action β} {value : α}
    {outcome : Except Failure β} {calls more : List LogCall}
    (hfirst : Makes before around frames (.ok value) calls first)
    (hnext : Makes before around frames outcome more (next value)) :
    Makes before around frames outcome (calls ++ more) (first >>= next) := by
  intro session hstack
  obtain ⟨between, hbetween, hfields, hrecords⟩ := hfirst session hstack
  obtain ⟨after, hafter, hfields', hrecords'⟩ := hnext between (hfields ▸ hstack)
  refine ⟨after, (bind_of_eq_ok hbetween).trans hafter, hfields'.trans hfields, ?_⟩
  rw [hrecords', hrecords, List.map_append, List.append_assoc]

/-- Behind an action that fails no more records are made. -/
theorem Makes.bind_error {first : Action α} {next : α → Action β} {failure : Failure}
    {calls : List LogCall} (hfirst : Makes before around frames (.error failure) calls first) :
    Makes before around frames (.error failure) calls (first >>= next) := by
  intro session hstack
  obtain ⟨after, hafter, hends⟩ := hfirst session hstack
  exact ⟨after, bind_of_eq_error hafter, hends⟩

/-- A failure that is met is a value, and the records up to it stay. -/
theorem Makes.attempt {action : Action α} {outcome : Except Failure α} {calls : List LogCall}
    (h : Makes before around frames outcome calls action) :
    Makes before around frames (.ok outcome) calls (Action.attempt action) := by
  intro session hstack
  obtain ⟨after, hafter, hends⟩ := h session hstack
  exact ⟨after, attempt_eq_ok_iff.mpr hafter, hends⟩

/-- A block puts its updates on the stack and takes them away when it is left, by a failure too. -/
theorem Makes.withFields {updates : FieldUpdates} {action : Action α}
    {outcome : Except Failure α} {calls : List LogCall}
    (h : Makes before around (updates :: frames) outcome calls action) :
    Makes before around frames outcome calls (Action.withFields updates action) := by
  intro session hstack
  obtain ⟨after, hafter, -, hrecords⟩ :=
    h { session with fields := updateFields session.fields updates } (hstack.updateFields updates)
  refine ⟨{ after with fields := session.fields }, ?_, rfl, hrecords⟩
  unfold Action.withFields
  rw [hafter]

/-- Making a record is the call under the stack. -/
theorem makes_emit (level : LogLevel) (message : String) :
    Makes before around frames (.ok ()) [⟨level, message, frames⟩] (emit level message) := by
  intro session hstack
  have hprepared : (prepared session).fields = session.fields ∧
      (prepared session).records = session.records := by
    unfold prepared
    split_ifs <;> exact ⟨rfl, rfl⟩
  refine ⟨_, emit_eq level message around session, hprepared.1, ?_⟩
  rw [recorded, hprepared.1, hprepared.2, hstack.make_eq]
  rfl

/-- A timed action makes its closing record behind those of the action, however this one ends. -/
theorem Makes.timed {name : String} {language : Option String} {action : Action α}
    {outcome : Except Failure α} {calls : List LogCall}
    (h : Makes before around ([("language", language)] :: frames) outcome calls action) :
    let last := closing name around outcome
    Makes before around frames outcome
      (calls ++ [⟨last.1, last.2, [("language", language)] :: frames⟩])
      (Action.timed name language action) := by
  have hsurroundings : Makes before around ([("language", language)] :: frames) (.ok around) []
      Action.surroundings := fun session _ => ⟨session, rfl, rfl, (List.append_nil _).symm⟩
  refine Makes.withFields (hsurroundings.bind (h.attempt.bind ?_))
  cases outcome with
  | ok value => exact (makes_emit _ _).bind (makes_lift (.ok value))
  | error failure => exact (makes_emit _ _).bind (makes_lift (.error failure))

end Action

/-- A run makes its records with the innermost values, and the fields at its end are those before
it, whatever fails in it. -/
theorem LoggedRun.makes (run : LoggedRun) (before : Keyed String) (around : Surroundings)
    (frames : List FieldUpdates) :
    run.action.Makes before around frames run.outcome (run.calls around frames) := by
  induction run generalizing frames with
  | done => exact Action.makes_lift (.ok ())
  | fail failure => exact Action.makes_lift (.error failure)
  | record level message updates => exact (Action.makes_emit level message).withFields
  | andThen first second ihfirst ihsecond =>
    have hfirst := ihfirst frames
    unfold outcome calls
    cases hresult : first.outcome with
    | ok value =>
      rw [hresult] at hfirst
      exact hfirst.bind (ihsecond frames)
    | error failure =>
      rw [hresult] at hfirst
      simp only [Except.isOk, Except.toBool, Bool.false_eq_true, if_false, List.append_nil]
      exact hfirst.bind_error
  | within updates body ih => exact (ih (updates :: frames)).withFields
  | timed name language body ih => exact (ih _).timed
  | attempt body ih =>
    change Action.Makes before around frames (.ok ()) (body.calls around frames)
      (Action.attempt body.action >>= fun _ => pure ())
    rw [← List.append_nil (body.calls around frames)]
    exact (ih frames).attempt.bind (Action.makes_lift (.ok ()))

/-- Every run, with any nesting of blocks, records, timed handlers and failures, makes its records
in their order. Each record has for each field the value of the innermost call or block around it
that gives one, or else the value from before the run, if there was one. When the run ends, with a
failure or without, the fields are those from before it. -/
theorem LoggedRun.records_carry_innermost_values (run : LoggedRun) (around : Surroundings)
    (session : Session) :
    ∃ after, run.action around session = (run.outcome, after) ∧
      after.fields = session.fields ∧
      after.records =
        session.records ++ (run.calls around []).map (LogCall.record session.fields) :=
  run.makes session.fields around [] session (stacked_nil session.fields)

/-- A block that is left by a failure does not name the language of a later record, and a call
without a source does not hide that of the block around it. -/
example (around : Surroundings) :
    let inner : LoggedRun := .within [("language", some "c")]
      (.andThen (.record .info "one" [("source", none)]) (.fail .noHome))
    let run : LoggedRun := .within [("source", some "a.c")]
      (.andThen (.attempt inner) (.record .info "two" []))
    (run.calls around []).map (LogCall.record []) =
      [⟨.info, "one", some "c", some "a.c", none⟩, ⟨.info, "two", none, some "a.c", none⟩] := by
  rfl

end OrderOfGrowth
