import SchemaEditor.Http.Api
import SchemaEditor.Proofs.Service.Refusal
import SchemaEditor.Proofs.Service.Version

/-!
# Failures

A request that fails leaves no trace.  It may leave something behind, for the fixes of a
diagnostic are kept before a fix is picked among them; but the service is then one that cannot be
told from what it was, by requests to it (`Service.Indistinct.replies`) or over HTTP
(`Indistinct.answers`).

Over HTTP a request can fail in other ways: its path or its body can have faults, or the settings
in it.  These are found before the service is asked, and the service is not asked then at all
(`indistinct_of_status`).

`failure_unobserved` puts this together with what versions count.
-/

namespace SchemaEditor

namespace Http
open Service

/-- What HTTP requests are answered, one after the other. -/
def answers {σ : Type} (host : Host σ) :
    σ × Option Service → List HttpRequest → List (Except ApiError Response)
  | _, [] => []
  | world, r :: rest =>
      (respond host world.1 world.2 r).2 :: answers host (respond host world.1 world.2 r).1 rest

/-! ## Answers over HTTP -/

section Indistinct
variable {σ : Type} (script : Script σ) {s s' : Service} {running : List Pass}

/-- **Both answer every HTTP request alike.** -/
theorem respond_indistinct (env : σ) (h : Indistinct ⟨s, running⟩ ⟨s', running⟩)
    (r : HttpRequest) :
    (respond script.host (env, running) (some s') r).2 =
        (respond script.host (env, running) (some s) r).2 ∧
      ∃ env₁ running₁ s₁ s₁',
        (respond script.host (env, running) (some s) r).1 = ((env₁, running₁), some s₁) ∧
          (respond script.host (env, running) (some s') r).1 = ((env₁, running₁), some s₁') ∧
            Indistinct ⟨s₁, running₁⟩ ⟨s₁', running₁⟩ := by
  cases hplan : r.plan with
  | answer response repeated =>
    simp only [respond, hplan]
    exact ⟨trivial, env, running, s, s', rfl, rfl, h⟩
  | fail e =>
    simp only [respond, hplan]
    exact ⟨trivial, env, running, s, s', rfl, rfl, h⟩
  | formatBySettings text =>
    have hsettings : s'.settings = s.settings := h.settings_eq
    simp only [respond, hplan, hsettings]
    exact ⟨trivial, env, running, s, s', rfl, rfl, h⟩
  | ask request refusal answer =>
    obtain ⟨hanswer, houtside, hinside⟩ := h.handle script env request
    simp only [respond, hplan]
    refine ⟨by rw [hanswer], _, _, _, _, rfl, ?_, hinside⟩
    rw [houtside]

/-- Both answer all HTTP requests alike, one after the other. -/
theorem answers_indistinct (env : σ) (h : Indistinct ⟨s, running⟩ ⟨s', running⟩)
    (rs : List HttpRequest) :
    answers script.host ((env, running), some s') rs =
      answers script.host ((env, running), some s) rs := by
  induction rs generalizing env running s s' with
  | nil => rfl
  | cons r rs ih =>
    obtain ⟨hanswer, env₁, running₁, s₁, s₁', hworld, hworld', hnext⟩ :=
      respond_indistinct script env h r
    rw [answers, answers, hanswer, hworld, hworld', ih env₁ hnext]

end Indistinct

/-! ## Failures over HTTP -/

theorem written_eq_ok {r r' : Response} {repeated : List Json}
    (h : r.written repeated = .ok r') : r' = r := by
  unfold Response.written at h
  split at h
  · cases h
  · exact (Except.ok.inj h).symm

section Failure
variable {σ : Type} {host : Host σ} (env : σ) {t : Traffic Service} {r : HttpRequest}
  {response : Response}

/-- **A request that is not answered with success** cannot be told from one that was never made,
if nothing else happens while it is answered. -/
theorem indistinct_of_status (hs : t.service.Consistent) (hq : host.Quiet)
    (hanswer : (respond host env (some t.service) r).2 = .ok response)
    (hstatus : response.status ≠ 200) :
    ∃ s', (respond host env (some t.service) r).1 = (env, some s') ∧
      Indistinct t ⟨s', t.running⟩ := by
  have hsame : Indistinct t ⟨t.service, t.running⟩ := ⟨rfl, hs, hs⟩
  cases hplan : r.plan with
  | answer response repeated =>
    simp only [respond, hplan]
    exact ⟨t.service, rfl, hsame⟩
  | fail e =>
    simp only [respond, hplan]
    exact ⟨t.service, rfl, hsame⟩
  | formatBySettings text =>
    simp only [respond, hplan]
    exact ⟨t.service, rfl, hsame⟩
  | ask request refusal answer =>
    simp only [respond, hplan] at hanswer ⊢
    cases houtcome : (t.service.handle host env request).2 with
    | ok a =>
      -- an answer of the service is sent with success
      rw [houtcome] at hanswer
      obtain rfl := written_eq_ok hanswer
      exact absurd rfl hstatus
    | error e =>
      obtain ⟨s', hworld, hnext⟩ := indistinct_of_error env hs hq houtcome
      have hafter := congrArg (fun world : σ × Service => (world.1, some world.2)) hworld
      exact ⟨s', hafter, hnext⟩

end Failure

/-- A service that cannot be told from the one of some traffic, while the same validators are
running. -/
structure Unobserved (t : Traffic Service) (s' : Service) : Prop where
  /-- The same documents are open in the same order, with the same texts, versions and
  diagnostics, and under the same settings. -/
  plain : s'.plain = t.service.plain
  /-- Whatever is asked and reported, the same is said. -/
  replies : ∀ events, machine.replies ⟨s', t.running⟩ events = machine.replies t events
  /-- Whatever is asked over HTTP, and happens while validators run, the same is answered. -/
  answers : ∀ {σ : Type} (script : Script σ) (env : σ) (rs : List HttpRequest),
    answers script.host ((env, t.running), some s') rs =
      answers script.host ((env, t.running), some t.service) rs

theorem unobserved_of_indistinct {t : Traffic Service} {s' : Service}
    (h : Indistinct t ⟨s', t.running⟩) : Unobserved t s' where
  plain := h.service_plain
  replies := h.replies
  answers script env rs := answers_indistinct script env h rs

/-- **A failure changes nothing, and versions count edits.**  While nothing else happens a request
fails exactly if its document, its diagnostic or its fix is not there; it then leaves a service
behind that cannot be told from the one before, and so does every HTTP request that is not
answered with success.  In every run the version of an open document is one more than the number
of edits since it was opened last, and its text changes in no other way. -/
theorem failure_unobserved (settings : Settings) (owns : Bool) (events : List Event) :
    let t := machine.run (idleTraffic settings owns) events
    (∀ {σ : Type} {host : Host σ} (env : σ), host.Quiet →
      (∀ request e, (t.service.handle host env request).2 = .error e ↔
        Refused t.service request e) ∧
      (∀ request e, (t.service.handle host env request).2 = .error e →
        ∃ s', (t.service.handle host env request).1 = (env, s') ∧ Unobserved t s') ∧
      (∀ r response, (respond host env (some t.service) r).2 = .ok response →
        response.status ≠ 200 →
          ∃ s', (respond host env (some t.service) r).1 = (env, some s') ∧ Unobserved t s')) ∧
    (∀ id d, t.service.find id = .ok d →
      d.version = 1 + (machine.history (idleTraffic settings owns) events).edits id) ∧
    (∀ id e d d', t.service.find id = .ok d → (machine.step t e).1.service.find id = .ok d' →
      e.opens id = false → edited id e (machine.step t e).2 = false →
        d'.document = d.document) := by
  intro t
  have ht : Reachable t := ⟨settings, owns, events, rfl⟩
  refine ⟨fun env hq => ⟨fun request e => ?_, fun request e h => ?_,
    fun r response h hstatus => ?_⟩, fun id d hd => ?_,
    fun id e d d' hd hd' hopens hedited => ?_⟩
  · exact handle_error_iff env ht.consistent hq
  · obtain ⟨s', hworld, hnext⟩ := indistinct_of_error env ht.consistent hq h
    exact ⟨s', hworld, unobserved_of_indistinct hnext⟩
  · obtain ⟨s', hworld, hnext⟩ := indistinct_of_status env ht.consistent hq h hstatus
    exact ⟨s', hworld, unobserved_of_indistinct hnext⟩
  · exact version_eq_edits settings owns events hd
  · exact document_eq_of_not_edited ht.sound hd hd' hopens hedited

/-- A fix is asked for by a number that is too large.  The fixes of the diagnostic are kept from
then on, so the service has changed, and nobody can tell.  Settings with a fault leave no trace
either. -/
theorem failure_unobserved_kept :
    let id := Text.ofString "a"
    let asked := Request.applyFix id 0 7
    let config := Json.object [("format.indentSize", .ofNat 3)]
    let sent : HttpRequest := ⟨Text.ofString "PUT", Text.ofString "/api/settings",
      .json (Json.object [("config", config)])⟩
    let events := [Event.ask (.openDocument id (Text.ofString "a b") none),
      .ask (.validate id (some (Text.ofString "error: missing colon"))),
      .ask (.update id (Text.ofString "c d"))]
    let t := machine.run (idleTraffic {} false) events
    let after := (t.service.handle Host.idle () asked).1.2
    ((t.service.handle Host.idle () asked).2 = .error (.noFix 7) ∧ after ≠ t.service ∧
      Refused t.service asked (.noFix 7) ∧ Unobserved t after) ∧
    (∃ response s', (respond Host.idle () (some t.service) sent).2 = .ok response ∧
      response.status = 422 ∧
        (respond Host.idle () (some t.service) sent).1 = ((), some s') ∧ Unobserved t s') ∧
    ∃ d, t.service.find id = .ok d ∧ d.version = 2 := by
  intro id asked config sent events t after
  have hquiet : Host.idle.Quiet := ⟨fun _ _ => rfl, fun _ _ => rfl⟩
  have hfails : (t.service.handle Host.idle () asked).2 = .error (.noFix 7) := by decide +kernel
  have hchanged : after ≠ t.service := by decide +kernel
  have hstatus : (respond Host.idle () (some t.service) sent).2.toOption.map Response.status =
      some 422 := by decide +kernel
  have hopen : (t.service.find id).isOk = true := by decide +kernel
  have hedits : (machine.history (idleTraffic {} false) events).edits id = 1 := by decide +kernel
  obtain ⟨hfailures, hversion, -⟩ := failure_unobserved {} false events
  obtain ⟨hrefused, hunobserved, hresponse⟩ := hfailures () hquiet
  obtain ⟨s', hworld, hnext⟩ := hunobserved asked _ hfails
  have hafter : s' = after := (congrArg Prod.snd hworld).symm
  obtain ⟨d, hd⟩ := exists_of_isOk hopen
  refine ⟨⟨hfails, hchanged, (hrefused asked _).mp hfails, hafter ▸ hnext⟩, ?_, d, hd,
    (hversion id d hd).trans (by rw [hedits])⟩
  cases hsent : (respond Host.idle () (some t.service) sent).2 with
  | error e =>
    rw [hsent] at hstatus
    cases hstatus
  | ok response =>
    rw [hsent] at hstatus
    have hbad : response.status = 422 := Option.some.inj hstatus
    obtain ⟨s', hworld, hnext⟩ := hresponse sent response hsent (by rw [hbad]; decide)
    exact ⟨response, s', rfl, hbad, hworld, hnext⟩

end Http

end SchemaEditor
