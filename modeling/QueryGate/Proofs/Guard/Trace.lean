import QueryGate.Guard.Session
/-!
What happens in a session. A session takes steps: it opens a connection, or it gives the database a call. Its events are
these steps in their order, each with why it failed if it did.

A link records which calls were made and not what came of them; that follows from the faults that the database had in
store. So events lead from one link to another if their calls are recorded and their failures are the ones in store.
-/
set_option autoImplicit false

namespace QueryGate.Guard

/-! ## Events -/

/-- A step of a session. -/
inductive Step where
  | connect
  | call (c : Call)
deriving DecidableEq, Repr

namespace Step

/-- The point that a step reaches. -/
def point : Step → Point
  | connect => .connect
  | call c => c.point

/-- The call of a step that is one. -/
def call? : Step → Option Call
  | connect => none
  | call c => some c

end Step

/-- A step, and why it failed if it did. -/
structure Event where
  step : Step
  failure : Option Failure
deriving DecidableEq, Repr

/-- A call that succeeds. -/
def Event.success (c : Call) : Event := ⟨.call c, none⟩

/-- The calls among some events. -/
def callsOf (events : List Event) : List Call := events.filterMap fun e => e.step.call?

@[simp] theorem callsOf_nil : callsOf [] = [] := rfl

@[simp] theorem callsOf_cons_connect (failure : Option Failure) (events : List Event) :
    callsOf (⟨.connect, failure⟩ :: events) = callsOf events := rfl

@[simp] theorem callsOf_cons_call (c : Call) (failure : Option Failure) (events : List Event) :
    callsOf (⟨.call c, failure⟩ :: events) = c :: callsOf events := rfl

@[simp] theorem callsOf_cons_success (c : Call) (events : List Event) :
    callsOf (.success c :: events) = c :: callsOf events := rfl

@[simp] theorem callsOf_append (events later : List Event) :
    callsOf (events ++ later) = callsOf events ++ callsOf later :=
  List.filterMap_append

/-! ## What the database says -/

/-- Why the rows of a database cannot be read, if they cannot. -/
def Database.rowFailure (db : Database) : Option Failure :=
  match db.rows.mapM readRow with
  | .ok _ => none
  | .error failure => some failure

/-- Why a step fails when the database refuses it with a message, or does not refuse it. Rows that are given can still
be unreadable. -/
def Database.failureAt (db : Database) (step : Step) : Option String → Option Failure
  | some message => some (.refused message)
  | none =>
    match step with
    | .call (.rows ..) => db.rowFailure
    | _ => none

/-- A database with some faults in store answers the steps of events one after the other and is left with other
faults. -/
inductive Answers (db : Database) : List (Point × String) → List Event → List (Point × String) → Prop where
  | nil (faults : List (Point × String)) : Answers db faults [] faults
  | cons (step : Step) {faults later : List (Point × String)} {events : List Event}
    (rest : Answers db (takeFault step.point faults).2 events later) :
    Answers db faults (⟨step, db.failureAt step (takeFault step.point faults).1⟩ :: events) later

theorem Answers.append {db : Database} {faults middle later : List (Point × String)} {events more : List Event}
    (h : Answers db faults events middle) (hmore : Answers db middle more later) :
    Answers db faults (events ++ more) later := by
  induction h with
  | nil _ => exact hmore
  | cons step _ ih => exact .cons step (ih hmore)

/-- Events lead from one link to another: their calls are recorded, and what came of them is what the database had in
store. -/
structure Leads (db : Database) (before : Link) (events : List Event) (after : Link) : Prop where
  calls_eq : after.calls = before.calls ++ callsOf events
  answered : Answers db before.faults events after.faults

namespace Leads

variable {db : Database} {before middle after : Link} {events more : List Event}

/-- Whether a connection is open does not show in the events. -/
theorem nil (hcalls : after.calls = before.calls) (hfaults : after.faults = before.faults) :
    Leads db before [] after where
  calls_eq := by rw [hcalls, callsOf_nil, List.append_nil]
  answered := hfaults ▸ .nil _

theorem append (h : Leads db before events middle) (hmore : Leads db middle more after) :
    Leads db before (events ++ more) after where
  calls_eq := by rw [hmore.calls_eq, h.calls_eq, callsOf_append, List.append_assoc]
  answered := h.answered.append hmore.answered

/-- Links that differ in their connection only are reached alike. -/
theorem congr_right {other : Link} (h : Leads db before events after) (hcalls : other.calls = after.calls)
    (hfaults : other.faults = after.faults) : Leads db before events other := by
  have hsame : Leads db after [] other := nil hcalls hfaults
  have hboth := h.append hsame
  rwa [List.append_nil] at hboth

end Leads

/-! ### Marks on a link -/

section Marks

variable {db : Database} {before after : Link} {faults later : List (Point × String)} {events : List Event} {e : Event}

/-- A visit of a point uses up a fault exactly if it fails. -/
theorem length_takeFault (p : Point) (faults : List (Point × String)) :
    (takeFault p faults).2.length + (if (takeFault p faults).1.isSome then 1 else 0) = faults.length := by
  induction faults with
  | nil => rfl
  | cons fault rest ih =>
      unfold takeFault
      by_cases h : fault.1 = p
      · simp [h]
      · simp only [if_neg h, List.length_cons]
        omega

/-- What a database has in store never grows. -/
theorem Answers.length_le (h : Answers db faults events later) : later.length ≤ faults.length := by
  induction h with
  | nil _ => exact Nat.le_refl _
  | @cons step faults _ _ _ ih =>
      have htake := length_takeFault step.point faults
      omega

/-- A connection that cannot be opened uses up a fault. -/
theorem Answers.length_lt (h : Answers db faults events later) (he : e ∈ events) (hconnect : e.step = .connect)
    (hfailure : e.failure ≠ none) : later.length < faults.length := by
  induction h with
  | nil _ => cases he
  | @cons step faults _ _ rest ih =>
      have htake := length_takeFault step.point faults
      have hle := rest.length_le
      rcases List.mem_cons.1 he with rfl | he
      · dsimp only at hconnect hfailure
        subst hconnect
        cases hfault : (takeFault Step.connect.point faults).1 with
        | none =>
            rw [hfault] at hfailure
            exact absurd rfl hfailure
        | some message =>
            rw [hfault, Option.isSome_some, if_pos rfl] at htake
            omega
      · have hlt := ih he
        omega

/-- A link does not come out of a session as it went in if there was a call or a failure. -/
theorem Leads.ne (h : Leads db before events after) (he : e ∈ events) (hmark : e.step = .connect → e.failure ≠ none) :
    after ≠ before := by
  rintro rfl
  -- connecting is not recorded as a call is, but where it fails a fault is used up
  cases hstep : e.step with
  | connect => exact Nat.lt_irrefl _ (h.answered.length_lt he hstep (hmark hstep))
  | call c =>
      have hcall : c ∈ callsOf events := List.mem_filterMap.2 ⟨e, he, by rw [hstep]; rfl⟩
      have hnone := List.append_right_eq_self.1 h.calls_eq.symm
      rw [hnone] at hcall
      cases hcall

end Marks

namespace Session

/-- A call is recorded. It succeeds unless the database refuses it. -/
theorem send_cases (db : Database) (c : Call) (link : Link) :
    (∃ after, (send c).onLink link = (.ok (), after)
        ∧ Leads db link [⟨.call c, db.failureAt (.call c) none⟩] after)
      ∨ ∃ message after, (send c).onLink link = (.error (.refused message), after)
        ∧ Leads db link [⟨.call c, some (.refused message)⟩] after := by
  have hanswer : Answers db link.faults [⟨.call c, db.failureAt (.call c) (takeFault c.point link.faults).1⟩]
      (takeFault c.point link.faults).2 := .cons (.call c) (.nil _)
  unfold send visit
  simp only
  cases htake : takeFault c.point link.faults with
  | mk refusal rest =>
      rw [htake] at hanswer
      cases refusal with
      | none => exact .inl ⟨_, rfl, rfl, hanswer⟩
      | some message => exact .inr ⟨message, _, rfl, rfl, hanswer⟩

/-- A connection is there, or it is opened; it may be that it cannot. -/
theorem acquire_cases (db : Database) (link : Link) :
    (∃ events after, acquire.onLink link = (.ok (), after) ∧ Leads db link events after
        ∧ (events = [] ∨ events = [⟨.connect, none⟩]))
      ∨ ∃ failure after, acquire.onLink link = (.error failure, after)
        ∧ Leads db link [⟨.connect, some failure⟩] after := by
  have hanswer : Answers db link.faults [⟨.connect, db.failureAt .connect (takeFault .connect link.faults).1⟩]
      (takeFault .connect link.faults).2 := .cons .connect (.nil _)
  unfold acquire visit
  by_cases hopen : link.isOpen ∧ link.isLasting
  · simp only [if_pos hopen]
    exact .inl ⟨[], link, rfl, .nil rfl rfl, .inl rfl⟩
  · simp only [if_neg hopen]
    have hnone : link.calls = link.calls ++ [] := (List.append_nil _).symm
    cases htake : takeFault .connect link.faults with
    | mk refusal rest =>
        rw [htake] at hanswer
        cases refusal with
        | none => exact .inl ⟨[⟨.connect, none⟩], _, rfl, ⟨hnone, hanswer⟩, .inr rfl⟩
        | some message => exact .inr ⟨.refused message, _, rfl, ⟨hnone, hanswer⟩⟩

end Session

/-! ## Calls in their order -/

/-- The failure of an outcome, if it is one. -/
def failure? {α : Type} : Except Failure α → Option Failure
  | .ok _ => none
  | .error failure => some failure

/-- Calls are made in their order up to the first that fails. -/
inductive InOrder : List Call → List Event → Option Failure → Prop where
  | done : InOrder [] [] none
  | stop (c : Call) (rest : List Call) (failure : Failure) :
    InOrder (c :: rest) [⟨.call c, some failure⟩] (some failure)
  | next (c : Call) {rest : List Call} {events : List Event} {failure : Option Failure}
    (tail : InOrder rest events failure) : InOrder (c :: rest) (.success c :: events) failure

namespace InOrder

variable {calls : List Call} {events : List Event} {failure : Option Failure}

/-- The calls that are made are the first ones. -/
theorem callsOf_prefix (h : InOrder calls events failure) : callsOf events <+: calls := by
  induction h with
  | done => exact List.prefix_rfl
  | stop c rest failure => exact ⟨rest, rfl⟩
  | next c _ ih => exact List.prefix_cons_inj c |>.2 ih

/-- Unless one fails, all calls are made, and they succeed. -/
theorem callsOf_eq (h : InOrder calls events none) : callsOf events = calls := by
  -- the induction needs a variable for how the calls ended
  generalize hnone : (none : Option Failure) = failure at h
  induction h with
  | done => rfl
  | stop c rest failure => cases hnone
  | next c _ ih => exact congrArg (List.cons c) (ih hnone)

/-- Unless one fails, all of them succeed. -/
theorem failure_eq_none (h : InOrder calls events none) : ∀ e ∈ events, e.failure = none := by
  generalize hnone : (none : Option Failure) = failure at h
  induction h with
  | done => simp
  | stop c rest failure => cases hnone
  | next c _ ih => exact List.forall_mem_cons.2 ⟨hnone, ih hnone⟩

/-- The call that fails is the last one. -/
theorem exists_failing {why : Failure} (h : InOrder calls events (some why)) :
    ∃ before c, c ∈ calls ∧ events = before ++ [⟨.call c, some why⟩] ∧ ∀ e ∈ before, e.failure = none := by
  generalize hsome : some why = failure at h
  induction h with
  | done => cases hsome
  | stop c rest failure =>
      cases hsome
      exact ⟨[], c, List.mem_cons_self, rfl, by simp⟩
  | next c _ ih =>
      obtain ⟨before, d, hd, rfl, hbefore⟩ := ih hsome
      exact ⟨.success c :: before, d, List.mem_cons_of_mem c hd, rfl, List.forall_mem_cons.2 ⟨rfl, hbefore⟩⟩

end InOrder

/-- On every link a session makes these calls in their order up to the first that fails, and fails as that one does. -/
def Makes (db : Database) {α : Type} (s : Session α) (calls : List Call) : Prop :=
  ∀ link, ∃ events after outcome, s.onLink link = (outcome, after) ∧ Leads db link events after
    ∧ InOrder calls events (failure? outcome)

section Makes

variable {db : Database} {α : Type}

theorem makes_pure (a : α) : Makes db (pure a : Session α) [] :=
  fun link => ⟨[], link, .ok a, rfl, .nil rfl rfl, .done⟩

/-- A session makes a call before those of the session that follows. -/
theorem Makes.send_bind {c : Call} {calls : List Call} {k : Unit → Session α}
    (hc : db.failureAt (.call c) none = none) (h : Makes db (k ()) calls) :
    Makes db (Session.send c >>= k) (c :: calls) := by
  intro link
  rw [Session.onLink_bind]
  rcases Session.send_cases db c link with ⟨middle, hsend, hleads⟩ | ⟨message, after, hsend, hleads⟩
  · obtain ⟨events, after, outcome, hk, hmore, horder⟩ := h middle
    rw [hc] at hleads
    simp only [hsend]
    exact ⟨_, after, outcome, hk, hleads.append hmore, .next c horder⟩
  · simp only [hsend]
    exact ⟨_, after, _, rfl, hleads, .stop c calls _⟩

/-- Running a statement for its rows fails if the database refuses it or its rows cannot be read. -/
theorem makes_rows (text : String) (parameters : List Bound) (f : List Json.Value → α) :
    Makes db (do
      Session.send (.rows text parameters)
      let items ← Session.conclude (db.rows.mapM readRow)
      pure (f items)) [.rows text parameters] := by
  intro link
  rw [Session.onLink_bind]
  rcases Session.send_cases db (.rows text parameters) link with
    ⟨after, hsend, hleads⟩ | ⟨message, after, hsend, hleads⟩
  · -- the database has run the statement, so only its rows are left to fail
    rw [Database.failureAt, Database.rowFailure] at hleads
    simp only [hsend, Session.onLink_bind, Session.conclude]
    cases hrows : db.rows.mapM readRow with
    | ok items =>
        rw [hrows] at hleads
        exact ⟨_, after, .ok (f items), rfl, hleads, .next _ .done⟩
    | error failure =>
        rw [hrows] at hleads
        exact ⟨_, after, .error failure, rfl, hleads, .stop _ [] failure⟩
  · simp only [hsend]
    exact ⟨_, after, _, rfl, hleads, .stop _ [] _⟩

/-- The calls of a statement that is run for its rows. -/
def rowCalls (db : Database) (s : Statement) : List Call :=
  [.prepare s.text, .rows (rowsAsObjects s.text (distinctColumns db.columns)) (s.parameters.map Bound.ofValue)]

/-- The calls of a statement that is run for the lines of an execution plan. -/
def planCalls (s : Statement) : List Call := [.explain s.text (s.parameters.map Bound.ofValue)]

theorem makes_fetchRows (s : Statement) : Makes db (fetchRows db s) (rowCalls db s) :=
  .send_bind rfl (makes_rows _ _ _)

theorem makes_fetchPlan (s : Statement) : Makes db (fetchPlan db s) (planCalls s) :=
  .send_bind rfl (makes_pure _)

/-- Inside a transaction the settings of the guard come before everything else. -/
theorem Makes.configured {work : Session α} {calls : List Call} (h : Makes db work calls) (milliseconds : Nat) :
    Makes db (Session.configured milliseconds work) (.readOnly :: .timeout milliseconds :: calls) :=
  .send_bind rfl (.send_bind rfl h)

end Makes

end QueryGate.Guard
