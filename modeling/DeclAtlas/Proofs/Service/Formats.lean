import DeclAtlas.Proofs.Sources.Asking
import DeclAtlas.Service.Call

/-!
# Calls for an unknown format

A call names the format of its report.  The word is looked at when there is a report to write, so a
call for a format that there is not has been answered by then: sources have been asked, and a query
that fails is reported as such (`call_of_query`).  The word for a direction is looked at before the
query is put, and it is the only one that keeps such a call from its query
(`refused_unasked_iff_unknown_direction`).
-/

namespace DeclAtlas.Service

/-- A word for a format that there is not. -/
def IsUnknownFormat (word : String) : Prop := word ≠ "markdown" ∧ word ≠ "json"

/-- A word for a direction that there is not. -/
def IsUnknownDirection (word : String) : Prop := word ≠ "rdeps" ∧ word ≠ "deps"

/-- A call for dependencies that names no direction there is. -/
def AsksUnknownDirection (o : Offer) (args : Arguments) : Prop :=
  o = .dependencies ∧ ∃ word, args.text? "direction" = some word ∧ IsUnknownDirection word

theorem formatOf_of_unknown {word : String} (h : IsUnknownFormat word) :
    formatOf (some word) = .error (.unknownFormat word) := by
  unfold formatOf
  split
  · rename_i heq
    exact nomatch heq
  · rename_i heq
    exact absurd (Option.some.inj heq) h.1
  · rename_i heq
    exact absurd (Option.some.inj heq) h.2
  · rename_i heq
    rw [Option.some.inj heq]

/-- **A direction is known or refused.** -/
theorem directionOf_cases (word? : Option String) :
    (∃ d, directionOf word? = .ok d ∧ ∀ word, word? = some word → ¬ IsUnknownDirection word) ∨
      ∃ word, word? = some word ∧ IsUnknownDirection word ∧
        directionOf word? = .error (.unknownDirection word) := by
  unfold directionOf
  split
  · exact .inl ⟨_, rfl, nofun⟩
  · refine .inl ⟨_, rfl, ?_⟩
    rintro _ ⟨⟩ h
    exact h.1 rfl
  · refine .inl ⟨_, rfl, ?_⟩
    rintro _ ⟨⟩ h
    exact h.2 rfl
  · rename_i word hrdeps hdeps
    exact .inr ⟨word, rfl, ⟨fun h => hrdeps (h ▸ rfl), fun h => hdeps (h ▸ rfl)⟩, rfl⟩

section Query

variable {root : String} {o : Offer} {args : Arguments}

theorem queryOf_name (hargs : args.check o.parameters = .ok ()) :
    queryOf root o.name args = o.query root args := by
  rw [queryOf, Offer.ofName?_name]
  dsimp only
  rw [hargs]
  rfl

/-- **Arguments that suit an offer make a query, unless they name an unknown direction.** -/
theorem queryOf_cases (root : String) (hargs : args.check o.parameters = .ok ()) :
    (¬ AsksUnknownDirection o args ∧ ∃ q, queryOf root o.name args = .ok q) ∨
      ∃ word, o = .dependencies ∧ args.text? "direction" = some word ∧ IsUnknownDirection word ∧
        queryOf root o.name args = .error (.unknownDirection word) := by
  rw [queryOf_name hargs]
  cases o with
  | dependencies =>
    rw [Offer.query]
    rcases directionOf_cases (args.text? "direction") with
      ⟨d, hd, hknown⟩ | ⟨word, hword, hunknown, herror⟩
    · refine .inl ⟨?_, ?_⟩
      · rintro ⟨-, word, hword, hunknown⟩
        exact hknown word hword hunknown
      · rw [hd]
        exact ⟨_, rfl⟩
    · refine .inr ⟨word, rfl, hword, hunknown, ?_⟩
      rw [herror]
      rfl
  | interface => exact .inl ⟨fun h => (nomatch h.1), _, rfl⟩
  | ordinal => exact .inl ⟨fun h => (nomatch h.1), _, rfl⟩
  | compat => exact .inl ⟨fun h => (nomatch h.1), _, rfl⟩
  | crossReference => exact .inl ⟨fun h => (nomatch h.1), _, rfl⟩

end Query

section Call

variable {σ : Type} {p : Project (StateM σ)} {name : String} {args : Arguments}

theorem call_of_refused {e : CallError} (h : queryOf p.root name args = .error e) (st : σ) :
    (call p name args).run st = (.refused e, st) := by
  rw [call, h]
  rfl

/-- **A call for an unknown format is its query**, with a refusal in place of the report. -/
theorem call_of_query {q : Query} {word : String} (h : queryOf p.root name args = .ok q)
    (hformat : args.text? "format" = some word) (hword : IsUnknownFormat word) (st : σ) :
    (call p name args).run st = (match ((p.answer q).run st).1 with
      | .error e => .failed e
      | .ok _ => .refused (.unknownFormat word), ((p.answer q).run st).2) := by
  rw [call, h]
  dsimp only
  rw [StateT.run_bind]
  cases (p.answer q).run st with
  | mk result st' =>
    cases result with
    | error e => rfl
    | ok r =>
      dsimp only [bind]
      rw [hformat, formatOf_of_unknown hword]
      rfl

end Call

/-- **An unknown format is noticed last.**  Of a call whose arguments suit one of the offers, but which
asks for a format that there is not: it is refused without asking any source exactly if it names an
unknown direction as well.  Otherwise it asks what its query asks; where the query fails, the call fails
with it, and where the query has an answer, the call is refused, after some source has been asked. -/
theorem refused_unasked_iff_unknown_direction (root : String) (settings : Settings)
    (g : AnsweringSources) (o : Offer) {args : Arguments} {word : String}
    (hargs : args.check o.parameters = .ok ()) (hformat : args.text? "format" = some word)
    (hword : IsUnknownFormat word) (asked : List Question) :
    let p : Project (StateM (List Question)) := ⟨root, settings, g.recorded⟩
    let reply := (call p o.name args).run asked
    ((∃ e, reply.1 = .refused e) ∧ reply.2 = asked ↔ AsksUnknownDirection o args) ∧
    (¬ AsksUnknownDirection o args → ∃ q, queryOf root o.name args = .ok q ∧
      reply.2 = ((p.answer q).run asked).2 ∧
      (∀ e, ((p.answer q).run asked).1 = .error e → reply.1 = .failed e) ∧
      ∀ r, ((p.answer q).run asked).1 = .ok r →
        reply.1 = .refused (.unknownFormat word) ∧ reply.2 ≠ asked) := by
  intro p reply
  rcases queryOf_cases root hargs with ⟨hknown, q, hq⟩ | ⟨direction, ho, hdirection, hunknown, hq⟩
  · have hreply : reply = (match ((p.answer q).run asked).1 with
        | .error e => .failed e
        | .ok _ => .refused (.unknownFormat word), ((p.answer q).run asked).2) :=
      call_of_query hq hformat hword asked
    -- a query that has an answer did not fail on its argument, so it has asked a source
    have hasked : ∀ r, ((p.answer q).run asked).1 = .ok r → ((p.answer q).run asked).2 ≠ asked := by
      intro r hr
      rcases p.asks_or_fails g.asking q with hasks | ⟨e, he⟩
      · exact hasks.run_ne asked
      · rw [he] at hr
        exact nomatch hr
    refine ⟨iff_of_false ?_ hknown, fun _ => ⟨q, hq, ?_, ?_, ?_⟩⟩
    · rintro ⟨⟨e, he⟩, hnone⟩
      rw [hreply] at he hnone
      dsimp only at he hnone
      cases hanswer : ((p.answer q).run asked).1 with
      | error e' =>
        rw [hanswer] at he
        exact nomatch he
      | ok r => exact hasked r hanswer hnone
    · rw [hreply]
    · intro e he
      rw [hreply]
      dsimp only
      rw [he]
    · intro r hr
      rw [hreply]
      dsimp only
      rw [hr]
      exact ⟨rfl, hasked r hr⟩
  · have hdirection : AsksUnknownDirection o args := ⟨ho, direction, hdirection, hunknown⟩
    have hreply : reply = (.refused (.unknownDirection direction), asked) :=
      call_of_refused hq asked
    refine ⟨iff_of_true ?_ hdirection, fun hknown => absurd hdirection hknown⟩
    rw [hreply]
    exact ⟨⟨_, rfl⟩, rfl⟩

/-- Arguments that ask for the summary of a schema file in a format that there is not. -/
def yamlSummary : Arguments := [("file", .text "a.capnp"), ("format", .text "yaml")]

theorem check_yamlSummary : Arguments.check yamlSummary Offer.ordinal.parameters = .ok () := by
  rw [Arguments.check, List.mergeSort_of_pairwise (by decide +kernel)]
  rfl

theorem refused_unasked_iff_unknown_direction_yaml :
    (Arguments.check yamlSummary Offer.ordinal.parameters = .ok () ∧
      Arguments.text? yamlSummary "format" = some "yaml" ∧ IsUnknownFormat "yaml") ∧
    ((call oneHeaderProject Offer.ordinal.name yamlSummary).run []).1 =
      .refused (.unknownFormat "yaml") ∧
    ((call oneHeaderProject Offer.ordinal.name yamlSummary).run []).2 ≠ [] := by
  have hformat : Arguments.text? yamlSummary "format" = some "yaml" := by decide +kernel
  have hword : IsUnknownFormat "yaml" := ⟨by decide, by decide⟩
  obtain ⟨-, hquery⟩ := refused_unasked_iff_unknown_direction "/repo" {} oneHeader .ordinal
    check_yamlSummary hformat hword []
  obtain ⟨q, hq, -, -, hanswered⟩ := hquery fun h => (nomatch h.1)
  obtain rfl := Except.ok.inj ((queryOf_name check_yamlSummary).symm.trans hq)
  exact ⟨⟨check_yamlSummary, hformat, hword⟩, hanswered _ rfl⟩

/-- Arguments that ask for the flags at no date, in a format that there is not. -/
def yamlFlags : Arguments := [("date", .text "tomorrow"), ("format", .text "yaml")]

/-- **An unknown format is noticed too late for a failing query**, which is reported in its place.  The
summary of a schema file is refused, but the file has been compiled for it. -/
theorem failed_for_unknown_format :
    Arguments.check yamlFlags Offer.compat.parameters = .ok () ∧
    (call oneHeaderProject Offer.compat.name yamlFlags).run [] =
      (.failed (.compat (.input (.invalidDate "tomorrow"))), []) ∧
    (call oneHeaderProject Offer.ordinal.name yamlSummary).run [] =
      (.refused (.unknownFormat "yaml"), [.compile "/repo/a.capnp"]) := by
  have hflags : Arguments.check yamlFlags Offer.compat.parameters = .ok () := by
    rw [Arguments.check, List.mergeSort_of_pairwise (by decide +kernel)]
    rfl
  have hword : IsUnknownFormat "yaml" := ⟨by decide, by decide⟩
  refine ⟨hflags, ?_, ?_⟩
  · exact call_of_query (queryOf_name hflags) (by decide +kernel) hword []
  · exact call_of_query (queryOf_name check_yamlSummary) (by decide +kernel) hword []

end DeclAtlas.Service
