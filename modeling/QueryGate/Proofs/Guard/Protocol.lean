import QueryGate.Proofs.Contract.Consistency
import QueryGate.Proofs.Guard.Trace
import QueryGate.Settings.Runtime
/-!
The protocol of the guard. Whatever the database does, a guarded session begins a transaction, makes it read only,
bounds the time of its statements, and only then makes its own calls; at the end it commits or rolls back, once. It
succeeds exactly if the commit does, and otherwise fails as its first failing step did.

There are five courses that a session can take, by the step at which it goes wrong; the protocol is read off them.
-/
set_option autoImplicit false

namespace QueryGate.Guard

open Statement

/-! ## The courses of a session -/

/-- What comes before the first call: nothing on a connection that is there, or a connection that is opened. -/
def IsConnecting (events : List Event) : Prop := events = [] ∨ events = [⟨.connect, none⟩]

/-- A call that begins or ends a transaction succeeds, or it fails and the connection leaves the transaction by itself,
which may fail too. -/
inductive Boundary (c : Call) : List Event → Option Failure → Prop where
  | success : Boundary c [.success c] none
  | failure (why : Failure) (own : Option Failure) :
    Boundary c [⟨.call c, some why⟩, ⟨.call .abandon, own⟩] (some why)

/-- The courses of a session that makes some calls inside a transaction. -/
inductive Course (calls : List Call) {α : Type} : List Event → Except Failure α → Prop where
  | unconnected (why : Failure) : Course calls [⟨.connect, some why⟩] (.error why)
  | notBegun {connecting begun : List Event} {why : Failure} (first : IsConnecting connecting)
    (begin_fails : Boundary .begin begun (some why)) : Course calls (connecting ++ begun) (.error why)
  | rolledBack {connecting main ended : List Event} {why : Failure} {own : Option Failure}
    (first : IsConnecting connecting) (call_fails : InOrder calls main (some why))
    (last : Boundary .rollback ended own) : Course calls (connecting ++ .success .begin :: (main ++ ended)) (.error why)
  | uncommitted {connecting main ended : List Event} {why : Failure} (first : IsConnecting connecting)
    (calls_succeed : InOrder calls main none) (commit_fails : Boundary .commit ended (some why)) :
    Course calls (connecting ++ .success .begin :: (main ++ ended)) (.error why)
  | committed {connecting main : List Event} (first : IsConnecting connecting) (calls_succeed : InOrder calls main none)
    (value : α) : Course calls (connecting ++ .success .begin :: (main ++ [.success .commit])) (.ok value)

section Courses

variable {db : Database} {α : Type}

/-- A connection that leaves a transaction by itself says so to the database. -/
theorem exists_leads_abandon (db : Database) (link : Link) :
    ∃ own, Leads db link [⟨.call .abandon, own⟩] (Session.abandon link) := by
  unfold Session.abandon
  rcases Session.send_cases db .abandon link with ⟨after, hsend, hleads⟩ | ⟨message, after, hsend, hleads⟩
  · rw [hsend]
    exact ⟨_, hleads⟩
  · rw [hsend]
    exact ⟨_, hleads.congr_right rfl rfl⟩

/-- A call that begins or ends a transaction succeeds or is followed by the connection's own. -/
theorem exists_boundary (db : Database) (c : Call) (hc : db.failureAt (.call c) none = none) (link : Link) :
    ∃ events after outcome, (Session.sendBoundary c).onLink link = (outcome, after) ∧ Leads db link events after
      ∧ Boundary c events (failure? outcome) := by
  unfold Session.sendBoundary
  rcases Session.send_cases db c link with ⟨after, hsend, hleads⟩ | ⟨message, middle, hsend, hleads⟩
  · rw [hc] at hleads
    simp only [hsend]
    exact ⟨_, after, .ok (), rfl, hleads, .success⟩
  · obtain ⟨own, habandon⟩ := exists_leads_abandon db middle
    simp only [hsend]
    exact ⟨_, _, .error (.refused message), rfl, hleads.append habandon, .failure _ own⟩

/-- A transaction in which some calls were made is committed if they succeeded, and rolled back otherwise. -/
theorem exists_course_finish (db : Database) {calls : List Call} {connecting main : List Event}
    {outcome : Except Failure α} (first : IsConnecting connecting) (hmain : InOrder calls main (failure? outcome))
    (link : Link) :
    ∃ ended after final, (Session.finish outcome).onLink link = (final, after) ∧ Leads db link ended after
      ∧ Course calls (connecting ++ .success .begin :: (main ++ ended)) final := by
  cases outcome with
  | ok value =>
      obtain ⟨ended, after, outcome, hcommit, hleads, hboundary⟩ := exists_boundary db .commit rfl link
      unfold Session.finish
      simp only [Session.onLink_bind, hcommit]
      cases outcome with
      | ok _ =>
          cases hboundary with
          | success => exact ⟨_, after, .ok value, rfl, hleads, .committed first hmain value⟩
      | error why => exact ⟨_, after, .error why, rfl, hleads, .uncommitted first hmain hboundary⟩
  | error why =>
      obtain ⟨ended, after, outcome, hrollback, hleads, hboundary⟩ := exists_boundary db .rollback rfl link
      unfold Session.finish
      simp only [hrollback]
      exact ⟨ended, after, .error why, rfl, hleads, .rolledBack first hmain hboundary⟩

/-- A guarded session takes one of the courses. -/
theorem exists_course_guarded {work : Session α} {own : List Call} (h : Makes db work own) (milliseconds : Nat)
    (link : Link) :
    ∃ events after outcome, (Session.guarded milliseconds work).onLink link = (outcome, after)
      ∧ Leads db link events after ∧ Course (.readOnly :: .timeout milliseconds :: own) events outcome := by
  unfold Session.guarded Session.onConnection
  rw [Session.onLink_bind]
  rcases Session.acquire_cases db link with
    ⟨connecting, opened, hacquire, hconnect, first⟩ | ⟨why, after, hacquire, hconnect⟩
  · simp only [hacquire, Session.onLink_bind, Prod.map]
    obtain ⟨begun, entered, outcome, hbegin, hleads, hboundary⟩ := exists_boundary db .begin rfl opened
    have hentered := hconnect.append hleads
    simp only [hbegin]
    cases outcome with
    | error why =>
        -- the connection is given back, which the database does not see
        exact ⟨_, _, .error why, rfl, hentered.congr_right rfl rfl, .notBegun first hboundary⟩
    | ok _ =>
        cases hboundary
        obtain ⟨main, worked, outcome, hwork, hmain, horder⟩ := h.configured milliseconds entered
        obtain ⟨ended, after, final, hfinish, hended, hcourse⟩ := exists_course_finish db first horder worked
        simp only [hwork, hfinish]
        have hall := hentered.append (hmain.append hended)
        rw [List.append_assoc] at hall
        exact ⟨_, _, final, rfl, hall.congr_right rfl rfl, hcourse⟩
  · simp only [hacquire]
    exact ⟨_, after, .error why, rfl, hconnect, .unconnected why⟩

end Courses

/-! ## The protocol -/

namespace Step

/-- Whether a step prepares or runs a statement. -/
def isStatement : Step → Bool
  | call (.prepare _) => true
  | call (.rows ..) => true
  | call (.explain ..) => true
  | call .health => true
  | _ => false

/-- Whether a step comes at the end of a transaction. -/
def isClosing : Step → Bool
  | call .commit => true
  | call .rollback => true
  | call .abandon => true
  | _ => false

/-- Whether a step is one inside a transaction: a setting of the guard, or a statement. -/
def isInner : Step → Bool
  | call .readOnly => true
  | call (.timeout _) => true
  | step => step.isStatement

end Step

/-- The calls that a session asks for. What a connection does by itself is left out. -/
def requestedCalls (events : List Event) : List Call := (callsOf events).filter fun c => c ≠ .abandon

/-- The calls before the end of a guarded transaction: it is begun, made read only and bounded in time before the calls
that it is for. -/
def guardedCalls (milliseconds : Nat) (own : List Call) : List Call :=
  .begin :: .readOnly :: .timeout milliseconds :: own

/-- A session keeps to the protocol of the guard. -/
structure KeepsProtocol (milliseconds : Nat) (own : List Call) {α : Type} (events : List Event)
    (outcome : Except Failure α) : Prop where
  /-- The calls come in their order. After them there is one commit, if they were all made, or one rollback if the
  transaction was begun, and neither if it was not. -/
  ordered : ∃ made closing, requestedCalls events = made ++ closing ∧ made <+: guardedCalls milliseconds own
    ∧ (closing = [] ∨ closing = [.rollback] ∨ closing = [.commit] ∧ made = guardedCalls milliseconds own)
    ∧ (closing ≠ [] ↔ .success .begin ∈ events)
  /-- No statement is prepared or run unless the transaction was begun and both settings were made before. -/
  guarded : (∃ e ∈ events, e.step.isStatement = true) →
    ∃ connecting rest, IsConnecting connecting
      ∧ events = connecting ++ .success .begin :: .success .readOnly :: .success (.timeout milliseconds) :: rest
  /-- A commit is asked for exactly if everything before the end succeeded. -/
  commit_iff : .commit ∈ requestedCalls events ↔ ∀ e ∈ events, e.step.isClosing = false → e.failure = none
  /-- The session succeeds exactly if the commit does. -/
  ok_iff : (∃ value, outcome = .ok value) ↔ .success .commit ∈ events
  /-- Otherwise it fails as the first step did that failed, which is no rollback. -/
  first_failure : ∀ why, outcome = .error why →
    ∃ before e after, events = before ++ e :: after ∧ (∀ d ∈ before, d.failure = none) ∧ e.failure = some why
      ∧ e.step ≠ .call .rollback ∧ e.step ≠ .call .abandon
  /-- A connection leaves a transaction by itself only after a call that should begin or end it failed. -/
  abandoned : .abandon ∈ callsOf events →
    ∃ before c why own, events = before ++ [⟨.call c, some why⟩, ⟨.call .abandon, own⟩]
      ∧ (c = .begin ∨ c = .commit ∨ c = .rollback) ∧ .abandon ∉ callsOf before

/-! ### Events of a part of a course -/

section Parts

variable {calls own : List Call} {connecting main ended : List Event} {c : Call} {milliseconds : Nat}
  {why result : Option Failure} {e : Event}

/-- Connecting makes no calls and succeeds. -/
theorem IsConnecting.spec (h : IsConnecting connecting) :
    callsOf connecting = [] ∧ ∀ e ∈ connecting, e = ⟨.connect, none⟩ := by
  rcases h with rfl | rfl
  · exact ⟨rfl, by simp⟩
  · exact ⟨rfl, by simp⟩

theorem IsConnecting.failure_eq_none (h : IsConnecting connecting) : ∀ e ∈ connecting, e.failure = none := by
  intro e he
  rw [h.spec.2 e he]

theorem IsConnecting.success_not_mem (h : IsConnecting connecting) (c : Call) : Event.success c ∉ connecting := by
  intro hmem
  cases h.spec.2 _ hmem

/-- Of the calls at a boundary only the first is asked for. -/
theorem Boundary.requestedCalls_eq (h : Boundary c ended result) (hc : c ≠ .abandon) : requestedCalls ended = [c] := by
  cases h with
  | success => simp [requestedCalls, hc]
  | failure why own => simp [requestedCalls, hc]

/-- Events at a boundary are its call or the connection's own. -/
theorem Boundary.step_eq (h : Boundary c ended result) (he : e ∈ ended) :
    e.step = .call c ∨ e.step = .call .abandon := by
  cases h with
  | success =>
      rw [List.mem_singleton.1 he]
      exact .inl rfl
  | failure why own =>
      rcases List.mem_cons.1 he with rfl | he
      · exact .inl rfl
      · rw [List.mem_singleton.1 he]
        exact .inr rfl

/-- At the end of a transaction nothing else happens. -/
theorem Boundary.isClosing_eq_true (h : Boundary c ended result) (hc : (Step.call c).isClosing = true)
    (he : e ∈ ended) : e.step.isClosing = true := by
  rcases h.step_eq he with hstep | hstep
  · rw [hstep, hc]
  · rw [hstep]
    rfl

/-- No statement is made at a boundary. -/
theorem Boundary.isStatement_eq_false (h : Boundary c ended result) (hc : (Step.call c).isStatement = false)
    (he : e ∈ ended) : e.step.isStatement = false := by
  rcases h.step_eq he with hstep | hstep
  · rw [hstep, hc]
  · rw [hstep]
    rfl

/-- Only a commit is committed. -/
theorem Boundary.not_mem_commit (h : Boundary c ended result) (hc : c ≠ .commit) : Event.success .commit ∉ ended := by
  intro hmem
  rcases h.step_eq hmem with hstep | hstep
  · cases hstep
    exact hc rfl
  · cases hstep

/-- The settings of the guard and the statements after them are calls inside a transaction. -/
theorem isInner_guarded (h : ∀ c ∈ own, (Step.call c).isStatement = true) (milliseconds : Nat) :
    ∀ c ∈ Call.readOnly :: .timeout milliseconds :: own, (Step.call c).isInner = true := by
  rw [List.forall_mem_cons, List.forall_mem_cons]
  refine ⟨rfl, rfl, fun c hc => ?_⟩
  have hstatement := h c hc
  cases c with
  | readOnly => rfl
  | timeout _ => rfl
  | _ => exact hstatement

/-- A step inside a transaction is not one at its end. -/
theorem isClosing_of_isInner {step : Step} (h : step.isInner = true) : step.isClosing = false := by
  cases step with
  | connect => rfl
  | call c =>
      cases c with
      | commit => cases h
      | rollback => cases h
      | abandon => cases h
      | _ => rfl

/-- Only calls inside a transaction are made there. -/
theorem InOrder.not_mem_callsOf (h : InOrder calls main why) (hcalls : ∀ c ∈ calls, (Step.call c).isInner = true)
    (hc : (Step.call c).isInner = false) : c ∉ callsOf main := by
  intro hmem
  have hinner := hcalls c (h.callsOf_prefix.subset hmem)
  rw [hc] at hinner
  cases hinner

/-- Calls inside a transaction are all asked for. -/
theorem InOrder.requestedCalls_eq (h : InOrder calls main why) (hcalls : ∀ c ∈ calls, (Step.call c).isInner = true) :
    requestedCalls main = callsOf main := by
  refine List.filter_eq_self.2 fun c hc => decide_eq_true ?_
  rintro rfl
  exact h.not_mem_callsOf hcalls rfl hc

/-- Calls that are not all settings of the guard begin with both settings. -/
theorem InOrder.settings_first (h : InOrder (.readOnly :: .timeout milliseconds :: own) main why) (he : e ∈ main)
    (hstatement : e.step.isStatement = true) :
    ∃ rest, main = .success .readOnly :: .success (.timeout milliseconds) :: rest := by
  cases h with
  | stop _ _ failure =>
      rw [List.mem_singleton.1 he] at hstatement
      cases hstatement
  | next _ tail =>
      cases tail with
      | stop _ _ failure =>
          rcases List.mem_cons.1 he with rfl | he
          · cases hstatement
          · rw [List.mem_singleton.1 he] at hstatement
            cases hstatement
      | next _ tail => exact ⟨_, rfl⟩

end Parts

/-! ### Events of a transaction that was begun -/

section Begun

variable {calls own : List Call} {connecting main ended : List Event} {c : Call} {milliseconds : Nat}
  {why result : Option Failure} {e : Event}

/-- Once a transaction is begun, an event is one of its parts. -/
theorem mem_begun_iff : e ∈ connecting ++ .success .begin :: (main ++ ended) ↔
    e ∈ connecting ∨ e = .success .begin ∨ e ∈ main ∨ e ∈ ended := by
  rw [List.mem_append, List.mem_cons, List.mem_append]

/-- A transaction that was begun has not failed before the first of its calls that did. -/
theorem failure_eq_none_begun (first : IsConnecting connecting) (hmain : ∀ e ∈ main, e.failure = none) :
    ∀ e ∈ connecting ++ .success .begin :: main, e.failure = none :=
  List.forall_mem_append.2 ⟨first.failure_eq_none, List.forall_mem_cons.2 ⟨rfl, hmain⟩⟩

/-- If all calls of a transaction succeed, what fails comes at its end. -/
theorem failure_eq_none_before_end (first : IsConnecting connecting) (hmain : InOrder calls main none)
    (hended : Boundary c ended result) (hc : (Step.call c).isClosing = true)
    (he : e ∈ connecting ++ .success .begin :: (main ++ ended)) (hclosing : e.step.isClosing = false) :
    e.failure = none := by
  rw [← List.cons_append, ← List.append_assoc] at he
  rcases List.mem_append.1 he with he | he
  · exact failure_eq_none_begun first hmain.failure_eq_none e he
  · rw [hended.isClosing_eq_true hc he] at hclosing
    cases hclosing

/-- The calls that a session asks for once its transaction is begun. -/
theorem requestedCalls_begun (first : IsConnecting connecting) (hmain : InOrder calls main why)
    (hcalls : ∀ c ∈ calls, (Step.call c).isInner = true) (hended : Boundary c ended result) (hc : c ≠ .abandon) :
    requestedCalls (connecting ++ .success .begin :: (main ++ ended)) = (.begin :: callsOf main) ++ [c] := by
  have happend (events later : List Event) :
      requestedCalls (events ++ later) = requestedCalls events ++ requestedCalls later := by
    rw [requestedCalls, callsOf_append, List.filter_append]
    rfl
  have hconnecting : requestedCalls connecting = [] := by rw [requestedCalls, first.spec.1, List.filter_nil]
  have hbegin : requestedCalls (.success .begin :: (main ++ ended)) = .begin :: requestedCalls (main ++ ended) := rfl
  rw [happend, hconnecting, hbegin, happend, hmain.requestedCalls_eq hcalls, hended.requestedCalls_eq hc]
  rfl

/-- Once a transaction is begun, a statement comes after both settings. -/
theorem guarded_begun (first : IsConnecting connecting)
    (hmain : InOrder (.readOnly :: .timeout milliseconds :: own) main why) (hended : Boundary c ended result)
    (hc : (Step.call c).isStatement = false) (he : e ∈ connecting ++ .success .begin :: (main ++ ended))
    (hstatement : e.step.isStatement = true) :
    ∃ connecting' rest, IsConnecting connecting'
      ∧ connecting ++ .success .begin :: (main ++ ended) =
        connecting' ++ .success .begin :: .success .readOnly :: .success (.timeout milliseconds) :: rest := by
  rcases mem_begun_iff.1 he with he | rfl | he | he
  · rw [first.spec.2 e he] at hstatement
    cases hstatement
  · cases hstatement
  · obtain ⟨rest, rfl⟩ := hmain.settings_first he hstatement
    exact ⟨connecting, rest ++ ended, first, rfl⟩
  · rw [hended.isStatement_eq_false hc he] at hstatement
    cases hstatement

/-- Once a transaction is begun, it is committed at its end if at all. -/
theorem not_mem_commit_begun (first : IsConnecting connecting) (hmain : InOrder calls main why)
    (hcalls : ∀ c ∈ calls, (Step.call c).isInner = true) (hended : .success .commit ∉ ended) :
    Event.success .commit ∉ connecting ++ .success .begin :: (main ++ ended) := by
  intro hmem
  rcases mem_begun_iff.1 hmem with hmem | hmem | hmem | hmem
  · exact first.success_not_mem _ hmem
  · cases hmem
  · exact hmain.not_mem_callsOf hcalls rfl (List.mem_filterMap.2 ⟨_, hmem, rfl⟩)
  · exact hended hmem

/-- Once a transaction is begun, its connection leaves it by itself only at the end. -/
theorem abandoned_begun (first : IsConnecting connecting) (hmain : InOrder calls main why)
    (hcalls : ∀ c ∈ calls, (Step.call c).isInner = true) (hended : Boundary c ended result)
    (hc : c = .begin ∨ c = .commit ∨ c = .rollback)
    (habandon : .abandon ∈ callsOf (connecting ++ .success .begin :: (main ++ ended))) :
    ∃ before d why own, connecting ++ .success .begin :: (main ++ ended) =
        before ++ [⟨.call d, some why⟩, ⟨.call .abandon, own⟩]
      ∧ (d = .begin ∨ d = .commit ∨ d = .rollback) ∧ .abandon ∉ callsOf before := by
  have hmain : Call.abandon ∉ callsOf main := hmain.not_mem_callsOf hcalls rfl
  have hbefore : Call.abandon ∉ callsOf (connecting ++ .success .begin :: main) := by
    rw [callsOf_append, first.spec.1, List.nil_append, callsOf_cons_success, List.mem_cons, not_or]
    exact ⟨by simp, hmain⟩
  -- so the call is one at the boundary
  have hsplit : connecting ++ .success .begin :: (main ++ ended) =
      (connecting ++ .success .begin :: main) ++ ended := by
    rw [List.append_assoc, List.cons_append]
  rw [hsplit] at habandon ⊢
  cases hended with
  | success =>
      rw [callsOf_append, List.mem_append] at habandon
      rcases habandon with hmem | hmem
      · exact absurd hmem hbefore
      · rw [← List.mem_singleton.1 hmem] at hc
        simp at hc
  | failure why own => exact ⟨_, c, why, own, rfl, hc, hbefore⟩

end Begun

/-! ### Courses keep to the protocol -/

section Courses

variable {own : List Call} {milliseconds : Nat} {α : Type} {events : List Event} {outcome : Except Failure α}

/-- The calls of a course come in the order of the protocol. -/
theorem Course.ordered (hown : ∀ c ∈ own, (Step.call c).isStatement = true)
    (h : Course (.readOnly :: .timeout milliseconds :: own) events outcome) :
    ∃ made closing, requestedCalls events = made ++ closing ∧ made <+: guardedCalls milliseconds own
      ∧ (closing = [] ∨ closing = [.rollback] ∨ closing = [.commit] ∧ made = guardedCalls milliseconds own)
      ∧ (closing ≠ [] ↔ .success .begin ∈ events) := by
  have hinner := isInner_guarded hown milliseconds
  have hbegun (connecting main ended : List Event) :
      Event.success .begin ∈ connecting ++ .success .begin :: (main ++ ended) := mem_begun_iff.2 (.inr (.inl rfl))
  -- where all calls were made, they are the calls of the protocol
  have hall {main : List Event} (hmain : InOrder (.readOnly :: .timeout milliseconds :: own) main none) :
      .begin :: callsOf main = guardedCalls milliseconds own := by
    rw [hmain.callsOf_eq]
    rfl
  cases h with
  | unconnected why => exact ⟨[], [], rfl, List.nil_prefix, .inl rfl, by simp [Event.success]⟩
  | notBegun first begin_fails =>
      cases begin_fails with
      | failure why own =>
          refine ⟨[.begin], [], ?_, ⟨_, rfl⟩, .inl rfl, iff_of_false (fun hne => hne rfl) ?_⟩
          · rw [requestedCalls, callsOf_append, first.spec.1]
            rfl
          · intro hmem
            rcases List.mem_append.1 hmem with hmem | hmem
            · exact first.success_not_mem _ hmem
            · simp [Event.success] at hmem
  | rolledBack first call_fails last =>
      exact ⟨_, [.rollback], requestedCalls_begun first call_fails hinner last (by simp),
        (List.prefix_cons_inj _).2 call_fails.callsOf_prefix, .inr (.inl rfl), iff_of_true (by simp) (hbegun _ _ _)⟩
  | uncommitted first calls_succeed commit_fails =>
      exact ⟨_, [.commit], requestedCalls_begun first calls_succeed hinner commit_fails (by simp),
        hall calls_succeed ▸ List.prefix_rfl, .inr (.inr ⟨rfl, hall calls_succeed⟩),
        iff_of_true (by simp) (hbegun _ _ _)⟩
  | committed first calls_succeed value =>
      exact ⟨_, [.commit], requestedCalls_begun first calls_succeed hinner .success (by simp),
        hall calls_succeed ▸ List.prefix_rfl, .inr (.inr ⟨rfl, hall calls_succeed⟩),
        iff_of_true (by simp) (hbegun _ _ _)⟩

/-- In a course no statement is prepared or run before both settings were made. -/
theorem Course.guarded (h : Course (.readOnly :: .timeout milliseconds :: own) events outcome)
    (hstatement : ∃ e ∈ events, e.step.isStatement = true) :
    ∃ connecting rest, IsConnecting connecting
      ∧ events = connecting ++ .success .begin :: .success .readOnly :: .success (.timeout milliseconds) :: rest := by
  obtain ⟨e, he, hstatement⟩ := hstatement
  cases h with
  | unconnected why =>
      rw [List.mem_singleton.1 he] at hstatement
      cases hstatement
  | notBegun first begin_fails =>
      rcases List.mem_append.1 he with he | he
      · rw [first.spec.2 e he] at hstatement
        cases hstatement
      · rw [begin_fails.isStatement_eq_false rfl he] at hstatement
        cases hstatement
  | rolledBack first call_fails last => exact guarded_begun first call_fails last rfl he hstatement
  | uncommitted first calls_succeed commit_fails =>
      exact guarded_begun first calls_succeed commit_fails rfl he hstatement
  | committed first calls_succeed value => exact guarded_begun first calls_succeed .success rfl he hstatement

/-- A course asks for a commit exactly if nothing failed before its end. -/
theorem Course.commit_iff (hown : ∀ c ∈ own, (Step.call c).isStatement = true)
    (h : Course (.readOnly :: .timeout milliseconds :: own) events outcome) :
    .commit ∈ requestedCalls events ↔ ∀ e ∈ events, e.step.isClosing = false → e.failure = none := by
  have hinner := isInner_guarded hown milliseconds
  cases h with
  | unconnected why =>
      refine iff_of_false (by simp [requestedCalls]) fun hall => ?_
      have hnone := hall _ (List.mem_singleton_self _) rfl
      cases hnone
  | notBegun first begin_fails =>
      cases begin_fails with
      | failure why own =>
          refine iff_of_false (by simp [requestedCalls, first.spec.1]) fun hall => ?_
          have hnone := hall _ (List.mem_append_right _ List.mem_cons_self) rfl
          cases hnone
  | @rolledBack _ main _ _ _ first call_fails last =>
      rw [requestedCalls_begun first call_fails hinner last (by simp)]
      have hcommit : Call.commit ∉ callsOf main := call_fails.not_mem_callsOf hinner rfl
      -- what failed is one of the calls of the transaction, so it came before the end
      obtain ⟨before, c, hc, rfl, -⟩ := call_fails.exists_failing
      refine iff_of_false ?_ fun hall => ?_
      · simpa using hcommit
      · have hnone := hall _ (mem_begun_iff.2 (.inr (.inr (.inl (List.mem_append_right _ List.mem_cons_self)))))
          (isClosing_of_isInner (hinner c hc))
        cases hnone
  | uncommitted first calls_succeed commit_fails =>
      rw [requestedCalls_begun first calls_succeed hinner commit_fails (by simp)]
      exact iff_of_true (by simp) fun _ => failure_eq_none_before_end first calls_succeed commit_fails rfl
  | committed first calls_succeed value =>
      rw [requestedCalls_begun first calls_succeed hinner .success (by simp)]
      exact iff_of_true (by simp) fun _ => failure_eq_none_before_end first calls_succeed .success rfl

/-- A course succeeds exactly if a commit does. -/
theorem Course.ok_iff (hown : ∀ c ∈ own, (Step.call c).isStatement = true)
    (h : Course (.readOnly :: .timeout milliseconds :: own) events outcome) :
    (∃ value, outcome = .ok value) ↔ .success .commit ∈ events := by
  have hinner := isInner_guarded hown milliseconds
  cases h with
  | unconnected why => exact iff_of_false (by simp) (by simp [Event.success])
  | notBegun first begin_fails =>
      refine iff_of_false (by simp) fun hmem => ?_
      rcases List.mem_append.1 hmem with hmem | hmem
      · exact first.success_not_mem _ hmem
      · exact begin_fails.not_mem_commit (by simp) hmem
  | rolledBack first call_fails last =>
      exact iff_of_false (by simp) (not_mem_commit_begun first call_fails hinner (last.not_mem_commit (by simp)))
  | uncommitted first calls_succeed commit_fails =>
      refine iff_of_false (by simp) (not_mem_commit_begun first calls_succeed hinner ?_)
      cases commit_fails with
      | failure why own => simp [Event.success]
  | committed first calls_succeed value =>
      exact iff_of_true ⟨value, rfl⟩ (mem_begun_iff.2 (.inr (.inr (.inr List.mem_cons_self))))

/-- A course fails exactly if one of its steps does. -/
theorem Course.error_iff (h : Course (.readOnly :: .timeout milliseconds :: own) events outcome) :
    (∃ why, outcome = .error why) ↔ ∃ e ∈ events, e.failure ≠ none := by
  cases h with
  | unconnected why => exact iff_of_true ⟨why, rfl⟩ ⟨_, List.mem_cons_self, by simp⟩
  | @notBegun connecting _ why first begin_fails =>
      cases begin_fails with
      | failure _ _ => exact iff_of_true ⟨why, rfl⟩ ⟨_, List.mem_append_right _ List.mem_cons_self, by simp⟩
  | @rolledBack _ _ _ why _ first call_fails last =>
      obtain ⟨before, c, -, rfl, -⟩ := call_fails.exists_failing
      exact iff_of_true ⟨why, rfl⟩ ⟨⟨.call c, some why⟩, by simp, by simp⟩
  | @uncommitted _ _ _ why first calls_succeed commit_fails =>
      cases commit_fails with
      | failure _ _ => exact iff_of_true ⟨why, rfl⟩ ⟨⟨.call .commit, some why⟩, by simp, by simp⟩
  | committed first calls_succeed value =>
      have hcommit : ∀ e ∈ [Event.success .commit], e.failure = none := List.forall_mem_singleton.2 rfl
      have hmain := List.forall_mem_append.2 ⟨calls_succeed.failure_eq_none, hcommit⟩
      exact iff_of_false (by simp) fun ⟨e, he, hfailure⟩ => hfailure (failure_eq_none_begun first hmain e he)

/-- A course that fails does so as its first failing step. -/
theorem Course.first_failure (hown : ∀ c ∈ own, (Step.call c).isStatement = true)
    (h : Course (.readOnly :: .timeout milliseconds :: own) events outcome) {why : Failure}
    (hfails : outcome = .error why) :
    ∃ before e after, events = before ++ e :: after ∧ (∀ d ∈ before, d.failure = none) ∧ e.failure = some why
      ∧ e.step ≠ .call .rollback ∧ e.step ≠ .call .abandon := by
  have hinner := isInner_guarded hown milliseconds
  cases h with
  | unconnected why =>
      cases hfails
      exact ⟨[], _, [], rfl, by simp, rfl, by simp, by simp⟩
  | @notBegun connecting _ _ first begin_fails =>
      cases hfails
      cases begin_fails with
      | failure why own => exact ⟨connecting, _, _, rfl, first.failure_eq_none, rfl, by simp, by simp⟩
  | @rolledBack connecting main ended _ _ first call_fails last =>
      cases hfails
      obtain ⟨before, c, hc, rfl, hbefore⟩ := call_fails.exists_failing
      have hcall := hinner c hc
      refine ⟨connecting ++ .success .begin :: before, ⟨.call c, some why⟩, ended, by simp,
        failure_eq_none_begun first hbefore, rfl, ?_, ?_⟩
      · rintro hstep
        cases hstep
        cases hcall
      · rintro hstep
        cases hstep
        cases hcall
  | @uncommitted connecting main _ _ first calls_succeed commit_fails =>
      cases hfails
      cases commit_fails with
      | failure why own =>
          exact ⟨connecting ++ .success .begin :: main, ⟨.call .commit, some why⟩, [⟨.call .abandon, own⟩], by simp,
            failure_eq_none_begun first calls_succeed.failure_eq_none, rfl, by simp, by simp⟩
  | committed first calls_succeed value => cases hfails

/-- In a course the connection leaves the transaction by itself only at a boundary that failed. -/
theorem Course.abandoned (hown : ∀ c ∈ own, (Step.call c).isStatement = true)
    (h : Course (.readOnly :: .timeout milliseconds :: own) events outcome) (habandon : .abandon ∈ callsOf events) :
    ∃ before c why own, events = before ++ [⟨.call c, some why⟩, ⟨.call .abandon, own⟩]
      ∧ (c = .begin ∨ c = .commit ∨ c = .rollback) ∧ .abandon ∉ callsOf before := by
  have hinner := isInner_guarded hown milliseconds
  cases h with
  | unconnected why => simp at habandon
  | @notBegun connecting _ _ first begin_fails =>
      cases begin_fails with
      | failure why own =>
          refine ⟨connecting, .begin, _, own, rfl, .inl rfl, ?_⟩
          rw [first.spec.1]
          exact List.not_mem_nil
  | rolledBack first call_fails last =>
      exact abandoned_begun first call_fails hinner last (.inr (.inr rfl)) habandon
  | uncommitted first calls_succeed commit_fails =>
      exact abandoned_begun first calls_succeed hinner commit_fails (.inr (.inl rfl)) habandon
  | committed first calls_succeed value =>
      exact abandoned_begun first calls_succeed hinner .success (.inr (.inl rfl)) habandon

/-- Every course keeps to the protocol. -/
theorem Course.keepsProtocol (hown : ∀ c ∈ own, (Step.call c).isStatement = true)
    (h : Course (.readOnly :: .timeout milliseconds :: own) events outcome) :
    KeepsProtocol milliseconds own events outcome where
  ordered := h.ordered hown
  guarded := h.guarded
  commit_iff := h.commit_iff hown
  ok_iff := h.ok_iff hown
  first_failure := fun _ => h.first_failure hown
  abandoned := h.abandoned hown

end Courses

/-! ## Requests -/

/-- A session that makes statements behind the guard keeps to the protocol on every link. -/
theorem exists_keepsProtocol {db : Database} {α : Type} {work : Session α} {own : List Call} (h : Makes db work own)
    (hown : ∀ c ∈ own, (Step.call c).isStatement = true) (milliseconds : Nat) (link : Link) :
    ∃ events, Leads db link events ((Session.guarded milliseconds work).onLink link).2
      ∧ KeepsProtocol milliseconds own events ((Session.guarded milliseconds work).onLink link).1 := by
  obtain ⟨events, after, outcome, hrun, hleads, hcourse⟩ := exists_course_guarded h milliseconds link
  rw [hrun]
  exact ⟨events, hleads, hcourse.keepsProtocol hown⟩

/-- What keeps to the protocol of the guard leaves its mark on the link, even if it gets no further than to a connection
that cannot be opened. -/
theorem KeepsProtocol.ne {db : Database} {before after : Link} {milliseconds : Nat} {own : List Call} {α : Type}
    {events : List Event} {outcome : Except Failure α} (h : KeepsProtocol milliseconds own events outcome)
    (hleads : Leads db before events after) : after ≠ before := by
  cases outcome with
  | ok value => exact hleads.ne (h.ok_iff.1 ⟨value, rfl⟩) (by simp [Event.success])
  | error why =>
      obtain ⟨connecting, e, rest, rfl, -, hfailure, -⟩ := h.first_failure why rfl
      exact hleads.ne (List.mem_append_right _ List.mem_cons_self) (fun _ => by simp [hfailure])

/-- The time limit of a configuration in use is one that the database takes for a limit. -/
theorem timeout_of_resolve {environment : Settings.Environment} {c : Settings.Configuration}
    {settings : Settings.Runtime} (h : c.resolve environment = .ok settings) :
    1 ≤ settings.timeout ∧ settings.timeout ≤ 2147483647 := by
  unfold Settings.Configuration.resolve Settings.boundedTimeout at h
  cases haddress : (c.connection.reveal environment).mapError Settings.RuntimeError.missingVariable with
  | error e =>
      rw [haddress] at h
      cases h
  | ok address =>
      cases hcheck : (Contract.check c.contract).mapError Settings.RuntimeError.inconsistent with
      | error e =>
          rw [haddress, hcheck] at h
          cases h
      | ok _ =>
          rw [haddress, hcheck] at h
          by_cases hbounds : 1 ≤ c.queryTimeout.toNat ∧ c.queryTimeout.toNat ≤ Settings.greatestTimeout
          · simp only [bind, Except.bind, if_pos hbounds, Except.ok.injEq] at h
            rw [← h]
            exact hbounds
          · simp only [bind, Except.bind, if_neg hbounds] at h
            cases h

/-- Under a configuration in use, whatever the database does, a query that is run and a query that is explained keep to
the protocol of the guard. The three calls before the query's own have fixed texts, and the database is told the decimal
text of a time limit from 1 to 2147483647 milliseconds. -/
theorem keepsProtocol_of_resolve (environment : Settings.Environment) (c : Settings.Configuration)
    (settings : Settings.Runtime) (h : c.resolve environment = .ok settings) (db : Database) (q : Query) (link : Link) :
    (1 ≤ settings.timeout ∧ settings.timeout ≤ 2147483647)
      ∧ (guardedCalls settings.timeout []).map (fun c => (c.text, c.parameters)) =
          [("BEGIN", []), ("SET TRANSACTION READ ONLY", []),
            ("SELECT set_config('statement_timeout', $1, true)", [.text (some (toString settings.timeout))])]
      ∧ (∃ events, Leads db link events ((execute db settings.timeout q).onLink link).2
          ∧ KeepsProtocol settings.timeout (rowCalls db q.statement) events
            ((execute db settings.timeout q).onLink link).1)
      ∧ ∃ events, Leads db link events ((explain db settings.timeout q).onLink link).2
          ∧ KeepsProtocol settings.timeout (planCalls q.explainStatement) events
            ((explain db settings.timeout q).onLink link).1 := by
  have hrows : ∀ c ∈ rowCalls db q.statement, (Step.call c).isStatement = true := by simp [rowCalls, Step.isStatement]
  have hplan : ∀ c ∈ planCalls q.explainStatement, (Step.call c).isStatement = true := by
    simp [planCalls, Step.isStatement]
  refine ⟨timeout_of_resolve h, rfl, ?_, ?_⟩
  · exact exists_keepsProtocol (makes_fetchRows q.statement) hrows settings.timeout link
  · exact exists_keepsProtocol (makes_fetchPlan q.explainStatement) hplan settings.timeout link

/-- A configuration of the library with the time limit that is usual. -/
def libraryConfiguration : Settings.Configuration :=
  ⟨Settings.Configuration.currentVersion, .plain "postgresql://localhost/library", .standard, 6000,
    Contract.Library.contract⟩

/-- A database that refuses the time limit and then does not even roll back. -/
def brokenDatabase : Database := ⟨[(.rollback, "no connection"), (.timeout, "out of range")], ["id"], [], [], none⟩

/-- The identifiers of five books. -/
def bookQuery : Query :=
  ⟨"Book", ⟨[.column Contract.baseAlias "id"], "books", Contract.baseAlias, [], .boolean true, [], some 5⟩⟩

/-- On the broken database the refusal of the time limit is what the query fails with, and the protocol is kept. Had there
been none, the statement would have been prepared as it is and run inside the one that makes objects of its rows. -/
theorem keepsProtocol_brokenDatabase :
    ∃ settings events, libraryConfiguration.resolve .empty = .ok settings
      ∧ ((execute brokenDatabase settings.timeout bookQuery).onLink ⟨false, true, brokenDatabase.faults, []⟩).1 =
          .error (.refused "out of range")
      ∧ rowCalls brokenDatabase bookQuery.statement =
          [.prepare "SELECT \"t\".\"id\" FROM \"books\" AS \"t\" LIMIT 5",
            .rows ("SELECT row_to_json(\"rows\") FROM (SELECT \"t\".\"id\" FROM \"books\" AS \"t\" LIMIT 5)"
              ++ " AS \"rows\"(\"id\")") []]
      ∧ KeepsProtocol settings.timeout (rowCalls brokenDatabase bookQuery.statement) events
          ((execute brokenDatabase settings.timeout bookQuery).onLink ⟨false, true, brokenDatabase.faults, []⟩).1 := by
  have hsettings : ∃ settings, libraryConfiguration.resolve .empty = .ok settings := ⟨_, rfl⟩
  obtain ⟨settings, h⟩ := hsettings
  obtain ⟨-, -, ⟨events, -, hprotocol⟩, -⟩ := keepsProtocol_of_resolve _ _ settings h brokenDatabase bookQuery
    ⟨false, true, brokenDatabase.faults, []⟩
  exact ⟨settings, events, h, rfl, rfl, hprotocol⟩

end QueryGate.Guard
