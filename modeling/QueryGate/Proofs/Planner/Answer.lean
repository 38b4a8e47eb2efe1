import QueryGate.Planner.Service
import QueryGate.Proofs.Compile.Outcome
import QueryGate.Proofs.Guard.Protocol
import QueryGate.Proofs.Plan.Reply
import QueryGate.Proofs.Statement.Piece
/-!
What becomes of a request. A reply is answered in one of five courses and a plan is explained in one of three; a course
says what the answer is and what happened to the state. What holds of answers, of the calls that reach the database and
of what is counted is read off the courses.

A plan is run from a reply or from its text, and it is explained. In all of these it is compiled alike: the database is
given the statement that `Compile.compileValue` yields, or the same statement after the word that asks for its execution
plan, and an answer with rows carries that very plan and that very statement.
-/
set_option autoImplicit false

namespace QueryGate.Planner

open Json Plan Statement Compile

/-! ## Courses -/

/-- A plan that does not compile is one that the caller can put in other words. -/
theorem needsClarification_of_compileRaw {catalog : Catalog} {raw : RawPlan} {reason : PlanError}
    (h : compileRaw catalog raw = .error reason) : reason.needsClarification = true := by
  cases hvalid : validate catalog raw with
  | ok plan =>
      obtain ⟨query, hquery⟩ := exists_compilePlan_of_validate hvalid
      simp only [compileRaw, hvalid, hquery, bind, Except.bind, reduceCtorEq] at h
  | error e =>
      obtain rfl : e = reason := by simpa only [compileRaw, hvalid, bind, Except.bind, Except.error.injEq] using h
      rw [validate_eq] at hvalid
      -- a plan is refused for its resource or for its selection, and both can be put right
      cases hresolve : catalog.resolve raw.resource with
      | error found =>
          simp only [hresolve, Except.error.injEq] at hvalid
          unfold Catalog.resolve at hresolve
          split at hresolve
          · cases hresolve
          · cases hresolve
            exact hvalid ▸ rfl
      | ok found =>
          simp only [hresolve] at hvalid
          split at hvalid
          · cases hvalid
            rfl
          · cases hvalid

/-- The answer to a plan by what became of its statement. -/
def answerOf (plan : ValidPlan) (query : Query) : Except Guard.Failure Guard.Rows → Except RequestError Answer
  | .ok rows => .ok (.data plan query.statement rows)
  | .error failure => .error (.notExecuted failure)

/-- The explanation of a plan by what became of its statement. -/
def explanationOf (query : Query) : Except Guard.Failure (List String) → Except RequestError Explanation
  | .ok lines => .ok ⟨Layout.layOut query.statement.text, String.intercalate "\n" lines⟩
  | .error failure => .error (.notExplained failure)

namespace Counters

/-- What is counted after a statement was run. -/
def afterAnswer (c : Counters) : Except Guard.Failure Guard.Rows → Counters
  | .ok _ => { c with queries := c.queries + 1 }
  | .error _ => { c with failures := c.failures + 1 }

/-- What is counted after a statement was explained. -/
def afterExplanation (c : Counters) : Except Guard.Failure (List String) → Counters
  | .ok _ => { c with explains := c.explains + 1 }
  | .error _ => { c with failures := c.failures + 1 }

end Counters

section Courses

variable {p : Planner} {db : Guard.Database} {s : State}

/-- The courses in which a reply is answered. -/
inductive AnswerCourse (p : Planner) (db : Guard.Database) (s : State) : Reply → Result Answer → Prop where
  | chat (text : String) : AnswerCourse p db s (.message text) (.ok (.chat text), s)
  | unclear : AnswerCourse p db s .unclear (.ok p.askAgain, s)
  | refused {raw : RawPlan} {reason : PlanError} (no_statement : compileRaw p.catalog raw = .error reason) :
    AnswerCourse p db s (.query raw) (.ok p.askAgain, s.reject)
  | ran {raw : RawPlan} {plan : ValidPlan} {query : Query} {outcome : Except Guard.Failure Guard.Rows}
    {link : Guard.Link} (compiled : compileRaw p.catalog raw = .ok (plan, query))
    (executed : (Guard.execute db p.settings.timeout query).onLink s.link = (outcome, link)) :
    AnswerCourse p db s (.query raw) (answerOf plan query outcome, ⟨s.counters.afterAnswer outcome, link⟩)

/-- Every reply is answered in one of the courses. -/
theorem answerCourse_answerReply (p : Planner) (db : Guard.Database) (reply : Reply) (s : State) :
    AnswerCourse p db s reply (p.answerReply db reply s) := by
  cases reply with
  | message text => exact .chat text
  | unclear => exact .unclear
  | query raw =>
      cases hcompile : compileRaw p.catalog raw with
      | error reason =>
          simp only [answerReply, hcompile, needsClarification_of_compileRaw hcompile, if_true]
          exact .refused hcompile
      | ok compiled =>
          obtain ⟨plan, query⟩ := compiled
          cases hrun : (Guard.execute db p.settings.timeout query).onLink s.link with
          | mk outcome link =>
              simp only [answerReply, hcompile, run, hrun]
              cases outcome with
              | ok rows => exact .ran hcompile hrun
              | error failure => exact .ran hcompile hrun

/-- The courses in which the plan in a value is explained. -/
inductive ExplainCourse (p : Planner) (db : Guard.Database) (s : State) (v : Value) : Result Explanation → Prop where
  | refused {reason : PlanError} (no_statement : compileValue p.catalog v = .error reason) :
    ExplainCourse p db s v (.error (.invalid reason), s.reject)
  | ran {plan : ValidPlan} {query : Query} {outcome : Except Guard.Failure (List String)} {link : Guard.Link}
    (compiled : compileValue p.catalog v = .ok (plan, query))
    (executed : (Guard.explain db p.settings.timeout query).onLink s.link = (outcome, link)) :
    ExplainCourse p db s v (explanationOf query outcome, ⟨s.counters.afterExplanation outcome, link⟩)

/-- Every plan is explained in one of the courses. -/
theorem explainCourse_explain (p : Planner) (db : Guard.Database) (v : Value) (s : State) :
    ExplainCourse p db s v (p.explain db v s) := by
  cases hcompile : compileValue p.catalog v with
  | error reason =>
      simp only [explain, hcompile]
      exact .refused hcompile
  | ok compiled =>
      obtain ⟨plan, query⟩ := compiled
      cases hrun : (Guard.explain db p.settings.timeout query).onLink s.link with
      | mk outcome link =>
          simp only [explain, hcompile, hrun]
          cases outcome with
          | ok lines => exact .ran hcompile hrun
          | error failure => exact .ran hcompile hrun

end Courses

/-! ## What reaches the database -/

/-- Between two links a planner ran a session of these calls behind the guard, with this outcome. It fails exactly if a
step of the session does: the connection, a setting of the guard, one of the calls, or the commit. -/
def RanGuarded (p : Planner) (db : Guard.Database) (own : List Guard.Call) {α : Type} (before after : Guard.Link)
    (outcome : Except Guard.Failure α) : Prop :=
  ∃ events, Guard.Leads db before events after ∧ Guard.KeepsProtocol p.settings.timeout own events outcome
    ∧ ((∃ why, outcome = .error why) ↔ ∃ e ∈ events, e.failure ≠ none)

/-- A session behind the guard does not leave the link as it was. -/
theorem RanGuarded.ne {p : Planner} {db : Guard.Database} {own : List Guard.Call} {α : Type}
    {before after : Guard.Link} {outcome : Except Guard.Failure α} (h : RanGuarded p db own before after outcome) :
    after ≠ before := by
  obtain ⟨events, hleads, hprotocol, -⟩ := h
  exact hprotocol.ne hleads

/-- Work that makes statements is run behind the guard with these statements. -/
theorem ranGuarded_guarded (p : Planner) {db : Guard.Database} {α : Type} {work : Guard.Session α}
    {own : List Guard.Call} (h : Guard.Makes db work own) (hown : ∀ c ∈ own, (Guard.Step.call c).isStatement = true)
    {before after : Guard.Link} {outcome : Except Guard.Failure α}
    (hrun : (Guard.Session.guarded p.settings.timeout work).onLink before = (outcome, after)) :
    RanGuarded p db own before after outcome := by
  obtain ⟨events, after', outcome', hrun', hleads, hcourse⟩ :=
    Guard.exists_course_guarded h p.settings.timeout before
  rw [hrun] at hrun'
  cases hrun'
  exact ⟨events, hleads, hcourse.keepsProtocol hown, hcourse.error_iff⟩

/-- The calls of a query that is explained: the word `EXPLAIN`, then the statement, with the parameters of the
statement. -/
def explainCalls (query : Query) : List Guard.Call :=
  [.explain ("EXPLAIN " ++ query.statement.text) (query.statement.parameters.map Guard.Bound.ofValue)]

/-- A query that is run gives the database the calls of its statement. -/
theorem ranGuarded_execute (p : Planner) (db : Guard.Database) (query : Query) {before after : Guard.Link}
    {outcome : Except Guard.Failure Guard.Rows}
    (h : (Guard.execute db p.settings.timeout query).onLink before = (outcome, after)) :
    RanGuarded p db (Guard.rowCalls db query.statement) before after outcome :=
  ranGuarded_guarded p (Guard.makes_fetchRows query.statement) (by simp [Guard.rowCalls, Guard.Step.isStatement]) h

/-- A query that is explained gives the database one call of its own. -/
theorem ranGuarded_explain (p : Planner) (db : Guard.Database) (query : Query) {before after : Guard.Link}
    {outcome : Except Guard.Failure (List String)}
    (h : (Guard.explain db p.settings.timeout query).onLink before = (outcome, after)) :
    RanGuarded p db (explainCalls query) before after outcome := by
  have hcalls : Guard.planCalls query.explainStatement = explainCalls query := by
    rw [Guard.planCalls, query.text_explainStatement, query.parameters_explainStatement, explainCalls]
  have hmakes : Guard.Makes db (Guard.fetchPlan db query.explainStatement) _ :=
    Guard.makes_fetchPlan query.explainStatement
  rw [hcalls] at hmakes
  exact ranGuarded_guarded p hmakes (by simp [explainCalls, Guard.Step.isStatement]) h

/-! ## Plans that are run and explained -/

/-- The plan in a value is answered by what it compiles to: its statement is run, and the answer carries it. If it does
not compile the caller is asked back and the database is left alone. -/
structure IsAnswered (p : Planner) (db : Guard.Database) (v : Value) (s : State) (result : Result Answer) : Prop where
  refused : ∀ reason, compileValue p.catalog v = .error reason → result.1 = .ok p.askAgain ∧ result.2.link = s.link
  ran : ∀ plan query, compileValue p.catalog v = .ok (plan, query) →
    ∃ outcome, RanGuarded p db (Guard.rowCalls db query.statement) s.link result.2.link outcome
      ∧ result.1 = answerOf plan query outcome

/-- The plan in a value is explained by what it compiles to: the database is asked for the execution plan of its
statement. It fails and leaves the database alone exactly if it does not compile. -/
structure IsExplained (p : Planner) (db : Guard.Database) (v : Value) (s : State) (result : Result Explanation) :
    Prop where
  untouched_iff : (∃ error, result.1 = .error error) ∧ result.2.link = s.link ↔
    ∃ reason, compileValue p.catalog v = .error reason
  refused : ∀ reason, compileValue p.catalog v = .error reason → result.1 = .error (.invalid reason)
  ran : ∀ plan query, compileValue p.catalog v = .ok (plan, query) →
    ∃ outcome, RanGuarded p db (explainCalls query) s.link result.2.link outcome
      ∧ result.1 = explanationOf query outcome

section Plans

variable {p : Planner} {db : Guard.Database} {s : State} {v : Value}

theorem AnswerCourse.isAnswered {raw : RawPlan} {result : Result Answer} (hraw : RawPlan.ofValue v = .ok raw)
    (h : AnswerCourse p db s (.query raw) result) : IsAnswered p db v s result := by
  have hvalue : compileValue p.catalog v = compileRaw p.catalog raw := by rw [compileValue, hraw]
  cases h with
  | refused no_statement =>
      refine ⟨fun _ _ => ⟨rfl, rfl⟩, fun plan query hcompile => ?_⟩
      rw [hvalue, no_statement] at hcompile
      cases hcompile
  | ran compiled executed =>
      refine ⟨fun reason hcompile => ?_, fun plan query hcompile => ?_⟩
      · rw [hvalue, compiled] at hcompile
        cases hcompile
      · rw [hvalue, compiled] at hcompile
        cases hcompile
        exact ⟨_, ranGuarded_execute p db _ executed, rfl⟩

theorem ExplainCourse.isExplained {result : Result Explanation} (h : ExplainCourse p db s v result) :
    IsExplained p db v s result := by
  cases h with
  | refused no_statement =>
      refine ⟨iff_of_true ⟨⟨_, rfl⟩, rfl⟩ ⟨_, no_statement⟩, fun reason hreason => ?_, fun plan query hcompile => ?_⟩
      · rw [no_statement, Except.error.injEq] at hreason
        rw [hreason]
      · rw [no_statement] at hcompile
        cases hcompile
  | ran compiled executed =>
      -- a session leaves its mark on the link, so a plan that was run cannot pass for one that was refused
      have hran := ranGuarded_explain p db _ executed
      refine ⟨iff_of_false (fun h => hran.ne h.2) ?_, fun reason hreason => ?_, fun plan query hcompile => ?_⟩
      · rintro ⟨reason, hreason⟩
        rw [compiled] at hreason
        cases hreason
      · rw [compiled] at hreason
        cases hreason
      · rw [compiled] at hcompile
        cases hcompile
        exact ⟨_, hran, rfl⟩

end Plans

/-! ## Texts that are answered -/

/-- A text is a message of the planner: it is a value that names no resource and says these words. -/
def IsChat (text words : String) : Prop := ∃ v, Value.ofText text = .ok v ∧ ¬NamesResource v ∧ Says v words

/-- A text has to be put in other words: it is no value, or one that names no resource and says nothing, or one that
names a resource and does not compile. -/
def IsUnclear (catalog : Catalog) (text : String) : Prop :=
  (∃ fault, Value.ofText text = .error fault)
    ∨ ∃ v, Value.ofText text = .ok v
      ∧ ((¬NamesResource v ∧ ∀ words, ¬Says v words)
        ∨ NamesResource v ∧ ∃ reason, compileValue catalog v = .error reason)

/-- A text is a plan that compiles. -/
def IsPlan (catalog : Catalog) (text : String) (plan : ValidPlan) (query : Query) : Prop :=
  ∃ v, Value.ofText text = .ok v ∧ NamesResource v ∧ compileValue catalog v = .ok (plan, query)

section Texts

variable {p : Planner} {db : Guard.Database} {s : State} {catalog : Catalog} {text : String}

/-- A text that is clear is not unclear. -/
theorem IsChat.not_isUnclear {words : String} (h : IsChat text words) : ¬IsUnclear catalog text := by
  obtain ⟨v, hread, hunnamed, hwords⟩ := h
  rintro (⟨fault, hfault⟩ | ⟨v', hread', ⟨-, hsilent⟩ | ⟨hnamed, -⟩⟩)
  · rw [hread] at hfault
    cases hfault
  · rw [hread] at hread'
    cases hread'
    exact hsilent words hwords
  · rw [hread] at hread'
    cases hread'
    exact hunnamed hnamed

theorem IsPlan.not_isUnclear {plan : ValidPlan} {query : Query} (h : IsPlan catalog text plan query) :
    ¬IsUnclear catalog text := by
  obtain ⟨v, hread, hnamed, hcompile⟩ := h
  rintro (⟨fault, hfault⟩ | ⟨v', hread', ⟨hunnamed, -⟩ | ⟨-, reason, hreason⟩⟩)
  · rw [hread] at hfault
    cases hfault
  · rw [hread] at hread'
    cases hread'
    exact hunnamed hnamed
  · rw [hread] at hread'
    cases hread'
    rw [hcompile] at hreason
    cases hreason

/-- A plan is no message. -/
theorem IsPlan.not_isChat {plan : ValidPlan} {query : Query} (h : IsPlan catalog text plan query) (words : String) :
    ¬IsChat text words := by
  obtain ⟨v, hread, hnamed, -⟩ := h
  rintro ⟨v', hread', hunnamed, -⟩
  rw [hread] at hread'
  cases hread'
  exact hunnamed hnamed

/-- A text is a message for one message at most. -/
theorem IsChat.eq {words words' : String} (h : IsChat text words) (h' : IsChat text words') : words = words' := by
  obtain ⟨v, hread, -, hwords⟩ := h
  obtain ⟨v', hread', -, hwords'⟩ := h'
  rw [hread] at hread'
  cases hread'
  exact hwords.eq hwords'

/-- The courses in which a text is answered. -/
inductive TextCourse (p : Planner) (db : Guard.Database) (s : State) (text : String) : Result Answer → Prop where
  | chat {words : String} (chat : IsChat text words) : TextCourse p db s text (.ok (.chat words), s)
  | unclear (unclear : IsUnclear p.catalog text) {after : State} (untouched : after.link = s.link) :
    TextCourse p db s text (.ok p.askAgain, after)
  | ran {plan : ValidPlan} {query : Query} (is_plan : IsPlan p.catalog text plan query) {after : State}
    {outcome : Except Guard.Failure Guard.Rows}
    (ran : RanGuarded p db (Guard.rowCalls db query.statement) s.link after.link outcome) :
    TextCourse p db s text (answerOf plan query outcome, after)

/-- Every text is answered in one of the courses. -/
theorem textCourse_answer (p : Planner) (db : Guard.Database) (text : String) (s : State) :
    TextCourse p db s text (p.answer db text s) := by
  unfold answer Reply.ofText
  cases hread : Value.ofText text with
  | error fault => exact .unclear (.inl ⟨fault, hread⟩) rfl
  | ok v =>
      simp only
      have hcourse := answerCourse_answerReply p db (.ofValue v) s
      have hreply := isReply_ofValue v
      -- the reply decides the course, and the value decides the reply
      generalize p.answerReply db (.ofValue v) s = result at hcourse ⊢
      generalize Reply.ofValue v = reply at hcourse hreply
      cases hreply with
      | message unnamed spoken =>
          cases hcourse with
          | chat words => exact .chat ⟨v, hread, unnamed, spoken⟩
      | unclear unnamed silent =>
          cases hcourse with
          | unclear => exact .unclear (.inr ⟨v, hread, .inl ⟨unnamed, silent⟩⟩) rfl
      | query named =>
          have hvalue : compileValue p.catalog v = compileRaw p.catalog (readPlan v) := by
            rw [compileValue, named.ofValue_eq]
          cases hcourse with
          | refused no_statement =>
              exact .unclear (.inr ⟨v, hread, .inr ⟨named, _, hvalue.trans no_statement⟩⟩) rfl
          | ran compiled executed =>
              exact .ran ⟨v, hread, named, hvalue.trans compiled⟩ (ranGuarded_execute p db _ executed)

end Texts

/-- The answer to a text is classified. -/
structure IsClassified (p : Planner) (db : Guard.Database) (text : String) (s : State) (result : Result Answer) :
    Prop where
  /-- No request is ever called invalid. -/
  never_invalid : ∀ reason, result.1 ≠ .error (.invalid reason)
  /-- The planner's own words are passed on exactly if there are any and no resource is named. -/
  chat_iff : ∀ words, result.1 = .ok (.chat words) ↔ IsChat text words
  /-- The caller is asked back exactly if the text is unclear, and is offered what may be asked for. -/
  clarification_iff : ∀ words, result.1 = .ok (.clarification words) ↔
    words = clarification p.catalog.allowed ∧ IsUnclear p.catalog text
  /-- In both cases the database is left alone. -/
  untouched : (∃ words, IsChat text words) ∨ IsUnclear p.catalog text → result.2.link = s.link
  /-- In every other case the text is a plan, its statement is run, and it is answered by what became of that. -/
  ran : (¬∃ words, IsChat text words) → ¬IsUnclear p.catalog text →
    ∃ v plan query outcome, Value.ofText text = .ok v ∧ NamesResource v ∧ compileValue p.catalog v = .ok (plan, query)
      ∧ RanGuarded p db (Guard.rowCalls db query.statement) s.link result.2.link outcome
      ∧ result.1 = answerOf plan query outcome

theorem TextCourse.isClassified {p : Planner} {db : Guard.Database} {text : String} {s : State}
    {result : Result Answer} (h : TextCourse p db s text result) : IsClassified p db text s result := by
  cases h with
  | @chat words hchat =>
      -- the three kinds of text exclude each other, so every other field is about the wrong kind
      have hclear : ¬IsUnclear p.catalog text := hchat.not_isUnclear
      refine ⟨by simp, fun words' => ⟨?_, fun hchat' => ?_⟩, fun words' => ?_, fun _ => rfl, fun hno => ?_⟩
      · rintro ⟨⟩
        exact hchat
      · rw [hchat.eq hchat']
      · exact iff_of_false (by simp) fun h => hclear h.2
      · exact absurd ⟨words, hchat⟩ hno
  | unclear hunclear hlink =>
      refine ⟨by simp [askAgain], fun words => ?_, fun words => ?_, fun _ => hlink, fun _ hclear => ?_⟩
      · exact iff_of_false (by simp [askAgain]) fun hchat => hchat.not_isUnclear hunclear
      · simp [askAgain, hunclear, eq_comm]
      · exact absurd hunclear hclear
  | @ran plan query hplan after outcome hran =>
      -- rows or a failure: neither is in the planner's own words
      have hdata : ∀ words, answerOf plan query outcome ≠ .ok (.chat words)
          ∧ answerOf plan query outcome ≠ .ok (.clarification words) := by
        cases outcome <;> simp [answerOf]
      refine ⟨?_, fun words => ?_, fun words => ?_, ?_, fun _ _ => ?_⟩
      · cases outcome <;> simp [answerOf]
      · exact iff_of_false (hdata words).1 (hplan.not_isChat words)
      · exact iff_of_false (hdata words).2 fun h => hplan.not_isUnclear h.2
      · rintro (⟨words, hchat⟩ | hunclear)
        · exact absurd hchat (hplan.not_isChat words)
        · exact absurd hunclear hplan.not_isUnclear
      · obtain ⟨v, hread, hnamed, hcompile⟩ := hplan
        exact ⟨v, plan, query, outcome, hread, hnamed, hcompile, hran, rfl⟩

/-- However the database behaves, the answer to a text is classified by what the text is and by whether its plan
compiles. The plan in a value is answered and explained by what it compiles to, with the same statement and the same
parameters; neither touches the database if it does not compile. -/
theorem isClassified_answer (p : Planner) (db : Guard.Database) (text : String) (s : State) :
    IsClassified p db text s (p.answer db text s)
      ∧ (∀ v raw, RawPlan.ofValue v = .ok raw → IsAnswered p db v s (p.answerReply db (.query raw) s))
      ∧ ∀ v, IsExplained p db v s (p.explain db v s) :=
  ⟨(textCourse_answer p db text s).isClassified,
    fun _ _ hraw => (answerCourse_answerReply p db _ s).isAnswered hraw,
    fun v => (explainCourse_explain p db v s).isExplained⟩

/-- A planner of the library. -/
def libraryPlanner : Planner :=
  .ofSettings ⟨Contract.Library.contract, .standard, "postgresql://localhost/library", 6000⟩

/-- A database that does not fail. -/
def readyDatabase : Guard.Database := ⟨[], ["id"], [some "\x7b\x7d"], ["Seq Scan"], none⟩

/-- A planner that has done nothing yet. -/
def freshState : State := ⟨.zero, freshLink .standard []⟩

/-- A plan for all books. -/
def booksPlan : Value := .object [("resource", .string "books")]

/-- A plan for papers, which the library does not have. -/
def papersPlan : Value := .object [("resource", .string "Paper")]

/-- In the library a text that breaks off is answered by a question, books are answered and explained by one statement,
and papers are neither run nor explained. The statement is prepared as it is, run inside the one that makes objects of its
rows, and explained behind the word for that. -/
theorem isClassified_library :
    (∃ words, (libraryPlanner.answer readyDatabase "\x7b" freshState).1 = .ok (.clarification words))
      ∧ (libraryPlanner.answer readyDatabase "\x7b" freshState).2.link = freshState.link
      ∧ (∃ plan query,
        Guard.rowCalls readyDatabase query.statement =
          [.prepare "SELECT \"t\".\"id\" FROM \"books\" AS \"t\" LIMIT 5",
            .rows ("SELECT row_to_json(\"rows\") FROM (SELECT \"t\".\"id\" FROM \"books\" AS \"t\" LIMIT 5)"
              ++ " AS \"rows\"(\"id\")") []]
        ∧ explainCalls query = [.explain "EXPLAIN SELECT \"t\".\"id\" FROM \"books\" AS \"t\" LIMIT 5" []]
        ∧ (∃ outcome, RanGuarded libraryPlanner readyDatabase (Guard.rowCalls readyDatabase query.statement)
            freshState.link (libraryPlanner.answerReply readyDatabase (.query (readPlan booksPlan)) freshState).2.link
            outcome
          ∧ (libraryPlanner.answerReply readyDatabase (.query (readPlan booksPlan)) freshState).1 =
            answerOf plan query outcome)
        ∧ ∃ outcome, RanGuarded libraryPlanner readyDatabase (explainCalls query) freshState.link
            (libraryPlanner.explain readyDatabase booksPlan freshState).2.link outcome
          ∧ (libraryPlanner.explain readyDatabase booksPlan freshState).1 = explanationOf query outcome)
      ∧ (libraryPlanner.explain readyDatabase papersPlan freshState).2.link = freshState.link := by
  have hgarbled : IsUnclear libraryPlanner.catalog "\x7b" := .inl ⟨_, rfl⟩
  have hbooks : ∃ plan query, compileValue libraryPlanner.catalog booksPlan = .ok (plan, query)
      ∧ query.statement = ⟨"SELECT \"t\".\"id\" FROM \"books\" AS \"t\" LIMIT 5", []⟩ := ⟨_, _, rfl, rfl⟩
  have hpapers : ∃ reason, compileValue libraryPlanner.catalog papersPlan = .error reason := ⟨_, rfl⟩
  obtain ⟨plan, query, hcompile, hstatement⟩ := hbooks
  obtain ⟨hclassified, hanswered, hexplained⟩ := isClassified_answer libraryPlanner readyDatabase "\x7b" freshState
  refine ⟨⟨_, (hclassified.clarification_iff _).2 ⟨rfl, hgarbled⟩⟩, hclassified.untouched (.inr hgarbled), ?_, ?_⟩
  · refine ⟨plan, query, ?_, ?_, (hanswered booksPlan _ rfl).ran plan query hcompile,
      (hexplained booksPlan).ran plan query hcompile⟩
    · rw [hstatement]
      rfl
    · rw [explainCalls, hstatement]
      rfl
  · exact ((hexplained papersPlan).untouched_iff.2 hpapers).2

end QueryGate.Planner
