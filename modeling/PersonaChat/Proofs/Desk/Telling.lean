import PersonaChat.Proofs.Desk.Sections
import PersonaChat.Proofs.Store.Saving

/-!
# What a user is told

A user notices how a command ended by what is sent to him: nothing at all exactly if an answer was
dropped, and in the end a text with the message if the command failed. `Stage.ToldBy` says this of
a command that has ended, and of a generation that has not that it is silent so far. Every section
keeps it, together with what the section sends: the sections of a generation send nothing to the
user before the one that completes it, and the section that ends any other command speaks.

Spec guidance: `SPEC_FULL.md`, lines 136–138.
-/

namespace PersonaChat

/-! ### Outcomes and what they are told by -/

/-- What was sent to the user tells him how a command ended. -/
structure Outcome.ToldBy (o : Outcome) (sent : List Event) : Prop where
  /-- He gets nothing exactly if the answer was dropped. -/
  silent : Silent sent ↔ o.kind = .cancelled
  /-- An error ends with a text that holds its message. -/
  error : o.kind ≠ .ok → o.kind ≠ .cancelled → ∃ before text message,
    sent = before ++ [.text (.str text)] ∧ o.message = .str message ∧
    message.toList <:+: text.toList

namespace Outcome.ToldBy

variable {o : Outcome} {sent : List Event}

/-- Of a command that was carried out the user must have got something. -/
theorem of_ok (hk : o.kind = .ok) (hr : ¬ Silent sent) : o.ToldBy sent where
  silent := iff_of_false hr (by simp [hk])
  error := fun hne _ ↦ absurd hk hne

/-- Of an error the user must have been told last. -/
theorem of_error {kind : OutcomeKind} {text message : String} (hk : kind ≠ .cancelled)
    (hm : message.toList <:+: text.toList) :
    (ofText kind message).ToldBy (sent ++ [.text (.str text)]) where
  silent := iff_of_false (not_silent_of_mem (List.mem_append_right _ List.mem_cons_self) rfl) hk
  error := fun _ _ ↦ ⟨sent, text, message, rfl, rfl, hm⟩

/-- Of a dropped answer the user must have got nothing. -/
theorem of_silent (hs : Silent sent) (message : String) :
    (ofText .cancelled message).ToldBy sent where
  silent := iff_of_true hs rfl
  error := fun _ hne ↦ absurd rfl hne

end Outcome.ToldBy

/-- What a command has sent so far befits its stage: once it has ended it tells how, and a
generation that is not done yet is silent. -/
def Stage.ToldBy (sent : List Event) : Stage → Prop
  | .ended (.outcome o) | .talk ⟨_, .finished (.ok o)⟩ => o.ToldBy sent
  | .talk _ => Silent sent
  | _ => True

/-- A generation that has not ended well is silent. -/
theorem Stage.toldBy_talk_iff {g : Generation} {sent : List Event}
    (hdone : ∀ o, g.phase ≠ .finished (.ok o)) : ToldBy sent (.talk g) ↔ Silent sent := by
  obtain ⟨talk, phase⟩ := g
  cases phase with
  | finished result =>
    cases result with
    | error failure => rfl
    | ok o => exact absurd rfl (hdone o)
  | _ => rfl

namespace Task

/-- A section sends what tells the user how the command ended, if it has, whatever was sent
before. -/
def Reports (w : World) (x : World × Stage) : Prop :=
  ∃ new, x.1.events = w.events ++ new ∧ ∀ sent, x.2.ToldBy (sent ++ new)

variable (env : Surroundings) (w : World) (t : Task)

/-- What is sent before a report is part of it. -/
theorem Reports.after {w w' : World} {x : World × Stage} {new : List Event} (h : Reports w' x)
    (hnew : w'.events = w.events ++ new) : Reports w x := by
  obtain ⟨more, hmore, htold⟩ := h
  refine ⟨new ++ more, by rw [hmore, hnew, List.append_assoc], fun sent ↦ ?_⟩
  rw [← List.append_assoc]
  exact htold _

/-- A message stands in what it is appended to. -/
theorem message_infix_append (front message : String) :
    message.toList <:+: (front ++ message).toList := by
  rw [String.toList_append]
  exact (List.suffix_append _ _).isInfix

/-- The message of a refusal stands in the text that the user is told. -/
theorem message_infix_refusalText (refusal : Refusal) :
    refusal.message.toList <:+: (refusalText refusal).toList := by
  unfold refusalText
  split <;> exact message_infix_append _ _

/-- No refusal counts as a dropped answer. -/
theorem outcome_ne_cancelled (kind : RefusalKind) : kind.outcome ≠ .cancelled := by
  cases kind <;> decide

private theorem reports_refuse (refusal : Refusal) : Reports w (refuse w t refusal) :=
  ⟨[.text (.str (refusalText refusal))], rfl, fun _ ↦
    .of_error (outcome_ne_cancelled refusal.kind) (message_infix_refusalText refusal)⟩

private theorem reports_fail (failure : Failure) : Reports w (fail w t failure) := by
  cases failure with
  | refused refusal => exact reports_refuse w t refusal
  | crashed crash => exact ⟨[], (List.append_nil _).symm, fun _ ↦ trivial⟩

private theorem reports_acknowledge (text : String) : Reports w (acknowledge w text) :=
  ⟨[.text (.str text)], rfl, fun _ ↦
    .of_ok rfl (not_silent_of_mem (List.mem_append_right _ List.mem_cons_self) rfl)⟩

/-- At a stage that says nothing about the end of a command anything may have been sent. -/
theorem reports_of_trivial {w' : World} {stage : Stage} (hw : ∃ new, w'.events = w.events ++ new)
    (hs : ∀ sent, stage.ToldBy sent) : Reports w (w', stage) := by
  obtain ⟨new, hnew⟩ := hw
  exact ⟨new, hnew, fun _ ↦ hs _⟩

private theorem reports_runEdit (e : Edit) : Reports w (runEdit env w t e) := by
  unfold runEdit
  split
  · next r failure _ =>
    exact (reports_fail { w with registry := r } t failure).after (List.append_nil _).symm
  · next r done _ =>
    have hcommit : (w.commit env r).events = w.events ++ [] := by simp
    dsimp only
    split
    · exact reports_of_trivial w ⟨[], hcommit⟩ fun _ ↦ trivial
    · exact (reports_acknowledge _ done.reply).after hcommit

private theorem reports_runInspection (i : Inspection) : Reports w (runInspection env w t i) := by
  have hshows := i.shows_run env w t.user t.textMode
  obtain ⟨new, hnew, hreaches⟩ := hshows.sends
  unfold runInspection
  split
  · next w' failure hrun =>
    rw [hrun] at hnew
    exact (reports_fail w' t failure).after hnew
  · next w' outcome hrun =>
    rw [hrun] at hnew
    exact ⟨new, hnew, fun sent ↦ .of_ok (hshows.done outcome (by rw [hrun]))
      fun hs ↦ hreaches outcome (by rw [hrun]) (silent_append.mp hs).2⟩

private theorem reports_reportConfigured (result : Except Failure (List String)) :
    Reports w (reportConfigured w result) := by
  unfold reportConfigured
  split
  · exact reports_acknowledge w _
  · next refusal =>
    exact ⟨[.text (.str ("⚠️ 获取模型失败: " ++ refusal.message))], rfl, fun _ ↦
      .of_error nofun (message_infix_append _ _)⟩
  · exact reports_of_trivial w ⟨[], (List.append_nil _).symm⟩ fun _ ↦ trivial

private theorem reports_reportListed (result : Except Failure (List String)) :
    Reports w (reportListed w t result) := by
  unfold reportListed
  split
  · exact reports_of_trivial w ⟨[], (List.append_nil _).symm⟩ fun _ ↦ trivial
  · exact reports_refuse w t _
  · exact reports_of_trivial w ⟨[], (List.append_nil _).symm⟩ fun _ ↦ trivial

private theorem reports_reportDescribed (result : Except Failure String) :
    Reports w (reportDescribed w t result) := by
  unfold reportDescribed
  split
  · exact reports_acknowledge w _
  · next failure => exact reports_fail w t failure

end Task

/-! ### Sections of generations -/

/-- A registry has been stored and saved, and nothing has been sent. -/
structure World.Saved (env : Surroundings) (w : World) (r : Registry Json) (w' : World) :
    Prop where
  /-- It is the registry now. -/
  registry : w'.registry = r
  /-- The disk is the one that the save leaves. -/
  disk : w'.disk = (env.vault.save w.disk (Vault.encode r) w.serial (w.troubles.headD none)).1
  /-- If the save succeeds, the snapshot holds the registry. -/
  file : (env.vault.save w.disk (Vault.encode r) w.serial (w.troubles.headD none)).2 = .ok () →
    w'.disk.look env.vault.path = .ok (.file (Text.encode (Vault.encode r)))
  /-- Nothing has been sent. -/
  silent : w'.events = w.events

/-- A commit stores and saves a registry. -/
theorem World.saved_commit (env : Surroundings) (w : World) (r : Registry Json) :
    w.Saved env r (w.commit env r) where
  registry := w.registry_commit env r
  disk := w.disk_commit env r
  file := by
    intro hok
    rw [w.disk_commit env r]
    cases hsave : env.vault.save w.disk (Vault.encode r) w.serial (w.troubles.headD none) with
    | mk disk result =>
      rw [hsave] at hok
      cases hok
      exact Vault.look_of_save hsave
  silent := w.events_commit env r

namespace Generation

variable (env : Surroundings) (w : World) (t : Talk)

/-- Recording a timeout sends nothing. -/
@[simp] theorem events_noteTimeout (result : Except Failure (Option String)) :
    (noteTimeout env w t result).events = w.events := by
  unfold noteTimeout
  split <;> rfl

/-- Putting the question sends nothing to the user. -/
theorem quiet_ask (ticket : Ticket) : w.Quiet (ask env w t ticket).1 := by
  unfold ask
  dsimp only
  split
  · exact .of_events_eq rfl
  · split
    · exact .of_events_eq rfl
    · have hask :=
        World.quiet_ask env (note w t .info "Calling provider" [("model", ticket.request.model),
        ("message_count", .int ticket.request.messages.length)]) (.chat ticket.api ticket.request)
      split
      · next h => rwa [h] at hask
      · next h => rwa [h] at hask

/-- What a generation sends with its answer reaches the user. -/
theorem not_silent_delivery (title content : String) :
    ¬ Silent (delivery env t title content) := by
  intro hs
  rw [delivery, silent_append, silent_append] at hs
  exact World.not_silent_presentation env _ _ _ hs.1.1

/-- Storing an answer sends nothing, whatever comes of it. -/
theorem events_complete (ticket : Ticket) (content : Option String) :
    (complete env w t ticket content).1.events = w.events := by
  unfold complete
  split
  · rfl
  · rfl
  · rfl
  · exact w.events_commit env _

/-- An answer is stored with the persona that it is for, under its number in the history, and the
registry is saved; nothing is sent. -/
def StoresAnswer (ticket : Ticket) (index : Nat) (content : String) (w' : World) : Prop :=
  ∃ k p, w.registry.Designates ticket.persona k p ∧ p.version = ticket.version ∧
    index = (p.history t.scope t.user).length + 1 ∧
    w.Saved env { w.registry with
      agents := w.registry.agents.set k (p.append t.scope t.user (.ofAssistant content w.now)) } w'

/-- A completion after which an answer waits to be sent has stored that answer. -/
theorem storesAnswer_of_complete {ticket ticket' : Ticket} {index : Nat} {content : Option String}
    {text : String} (h : (complete env w t ticket content).2 = .stored ticket' index text) :
    content = some text ∧ ticket' = ticket ∧
      StoresAnswer env w t ticket index text (complete env w t ticket content).1 := by
  rcases complete_cases env w t ticket content with ⟨c, k, p, rfl, hd, hv⟩ | ⟨log, result, hc, -⟩
  · rw [complete_of_current env w t c hd hv] at h ⊢
    cases h
    exact ⟨rfl, rfl, k, p, hd, hv, rfl, w.saved_commit env _⟩
  · rw [hc] at h
    cases h

/-- A section of a generation that does not send an answer, and is not done, sends nothing to the
user, and it ends the generation only as cancelled or by a failure. -/
theorem quiet_step (g : Generation)
    (hstored : ∀ ticket index content, g.phase ≠ .stored ticket index content)
    (hdone : ∀ o, g.phase ≠ .finished (.ok o)) :
    w.Quiet (g.step env w).1 ∧
      ∀ o, (g.step env w).2.phase = .finished (.ok o) → o = .ofText .cancelled "" := by
  unfold step
  dsimp only
  split
  · refine ⟨.of_events_eq rfl, ?_⟩
    unfold enter
    split
    · nofun
    · nofun
    · split <;> nofun
  · unfold occupy
    split
    · exact ⟨.of_events_eq rfl, nofun⟩
    · exact ⟨.of_events_eq rfl, nofun⟩
  · next api token _ =>
    rcases begin_cases env w g.talk api token with ⟨_, _, hb⟩ | ⟨_, hb⟩ | ⟨_, _, _, _, _, hb⟩
    · rw [hb]
      exact ⟨.of_events_eq rfl, nofun⟩
    · rw [hb]
      exact ⟨.of_events_eq rfl, nofun⟩
    · rw [hb]
      exact ⟨.of_events_eq (World.events_commit env w _), nofun⟩
  · exact ⟨.of_events_eq rfl, nofun⟩
  · next ticket _ =>
    refine ⟨quiet_ask env w g.talk ticket, fun o ho ↦ ?_⟩
    rcases phase_ask env w g.talk ticket with ha | ⟨result, ha⟩ <;>
    · rw [ha] at ho
      cases ho
  · exact ⟨.of_events_eq rfl, nofun⟩
  · next result _ => exact ⟨.of_events_eq (events_noteTimeout env w g.talk result), nofun⟩
  · exact ⟨.of_events_eq rfl, nofun⟩
  · next ticket content _ =>
    refine ⟨.of_events_eq (events_complete env w g.talk ticket content), fun o ho ↦ ?_⟩
    rcases complete_cases env w g.talk ticket content with ⟨c, k, p, rfl, hd, hv⟩ |
      ⟨_, result, hc, hends⟩
    · rw [complete_of_current env w g.talk c hd hv] at ho
      cases ho
    · rw [hc] at ho
      exact hends o (Phase.finished.inj ho)
  · next ticket index content hp => exact absurd hp (hstored ticket index content)
  · next result hp => exact ⟨.of_events_eq rfl, fun o ho ↦ absurd (hp.trans ho) (hdone o)⟩

/-- A generation whose answer waits to be sent after a section has stored it in that section. -/
theorem storesAnswer_of_step {g : Generation} {ticket : Ticket} {index : Nat} {content : String}
    (h : (g.step env w).2.phase = .stored ticket index content) :
    StoresAnswer env w g.talk ticket index content (g.step env w).1 := by
  obtain ⟨talk, phase⟩ := g
  cases phase with
  | asked =>
    simp only [step, enter] at h
    split at h
    · cases h
    · cases h
    · split at h <;> cases h
  | admitted api =>
    simp only [step, occupy] at h
    split at h <;> cases h
  | occupied api token =>
    simp only [step] at h
    rcases begin_cases env w talk api token with ⟨_, _, hb⟩ | ⟨_, hb⟩ | ⟨_, _, _, _, _, hb⟩ <;>
    · rw [hb] at h
      cases h
  | started ticket =>
    simp only [step] at h
    rcases phase_ask env w talk ticket with ha | ⟨result, ha⟩ <;>
    · rw [ha] at h
      cases h
  | freed ticket result =>
    cases result with
    | error failure => cases h
    | ok content =>
      obtain ⟨rfl, rfl, hstores⟩ := storesAnswer_of_complete env w talk h
      exact hstores
  | _ => cases h

/-- A generation that has stored its answer sends it in its next section, and is done. -/
theorem step_of_stored {g : Generation} {ticket : Ticket} {index : Nat} {content : String}
    (hp : g.phase = .stored ticket index content) :
    g.step env w =
      (reply env w g.talk ticket index content, ⟨g.talk, .finished (.ok (.done content))⟩) := by
  obtain ⟨talk, phase⟩ := g
  cases hp
  rfl

/-- A generation that ends well in a section sends the answer in it that it had stored. -/
theorem stored_of_finished {g : Generation} (hdone : ∀ o, g.phase ≠ .finished (.ok o))
    {o : Outcome}
    (ho : (g.step env w).2.phase = .finished (.ok o)) (hk : o.kind = .ok) :
    ∃ ticket index content, g.phase = .stored ticket index content ∧ o = .done content ∧
      (g.step env w).1 = reply env w g.talk ticket index content := by
  by_cases hstored : ∃ ticket index content, g.phase = .stored ticket index content
  · obtain ⟨ticket, index, content, hp⟩ := hstored
    rw [step_of_stored env w hp] at ho ⊢
    cases ho
    exact ⟨ticket, index, content, hp, rfl, rfl⟩
  · have hquiet := g.quiet_step env w
      (fun ticket index content hp ↦ hstored ⟨ticket, index, content, hp⟩) hdone
    rw [hquiet.2 o ho] at hk
    cases hk

/-- After a section of a generation, what the command has sent befits the generation if it did
before. -/
theorem toldBy_step (g : Generation) : ∃ new, (g.step env w).1.events = w.events ++ new ∧
    ∀ sent, Stage.ToldBy sent (.talk g) → Stage.ToldBy (sent ++ new) (.talk (g.step env w).2) := by
  by_cases hdone : ∃ o, g.phase = .finished (.ok o)
  · obtain ⟨o, ho⟩ := hdone
    have hstays : g.step env w = (w, g) := by
      obtain ⟨talk, phase⟩ := g
      cases ho
      rfl
    rw [hstays]
    exact ⟨[], (List.append_nil _).symm, fun sent h ↦ by rwa [List.append_nil]⟩
  have hsilent {sent : List Event} : Stage.ToldBy sent (.talk g) ↔ Silent sent :=
    Stage.toldBy_talk_iff (not_exists.mp hdone)
  by_cases hstored : ∃ ticket index content, g.phase = .stored ticket index content
  · obtain ⟨ticket, index, content, hp⟩ := hstored
    rw [step_of_stored env w hp]
    refine ⟨_, events_reply env w g.talk ticket index content, fun sent _ ↦ .of_ok rfl fun hs ↦ ?_⟩
    exact not_silent_delivery env g.talk _ content (silent_append.mp hs).2
  · obtain ⟨⟨new, hnew, hquiet⟩, hends⟩ := g.quiet_step env w
      (fun ticket index content hp ↦ hstored ⟨ticket, index, content, hp⟩) (not_exists.mp hdone)
    refine ⟨new, hnew, fun sent h ↦ ?_⟩
    have hall : Silent (sent ++ new) := silent_append.mpr ⟨hsilent.mp h, hquiet⟩
    by_cases hcancelled : ∃ o, (g.step env w).2.phase = .finished (.ok o)
    · obtain ⟨o, ho⟩ := hcancelled
      have htold : (Outcome.ofText .cancelled "").ToldBy (sent ++ new) := .of_silent hall ""
      rw [← hends o ho] at htold
      generalize (g.step env w).2 = g' at ho
      obtain ⟨talk, phase⟩ := g'
      cases ho
      exact htold
    · exact (Stage.toldBy_talk_iff (not_exists.mp hcancelled)).mpr hall

end Generation

/-! ### Sections of commands -/

private theorem Fetch.events_step (env : Surroundings) (w : World) (f : Fetch) :
    ∃ new, (f.step env w).1.events = w.events ++ new := by
  rcases f.step_cases env w with h | ⟨models, h⟩
  · exact h.events
  · obtain ⟨new, hnew⟩ := h.events
    exact ⟨new, by rw [hnew, World.events_commit]⟩

private theorem Describing.events_step (env : Surroundings) (w : World) (d : Describing) :
    ∃ new, (d.step env w).1.events = w.events ++ new := by
  rcases d.step_cases env w with h | ⟨_, _, _, _, _, _, _, h⟩
  · exact h.events
  · exact ⟨[], by rw [h, World.events_commit, List.append_nil]⟩

/-- After a section, what a command has sent befits its stage if it did before. -/
theorem Task.toldBy_step (env : Surroundings) (w : World) (t : Task) :
    ∃ new, (t.step env w).1.events = w.events ++ new ∧
      ∀ sent, t.stage.ToldBy sent → (t.step env w).2.stage.ToldBy (sent ++ new) := by
  have of_reports {x : World × Stage} (hx : Reports w x) : ∃ new, x.1.events = w.events ++ new ∧
      ∀ sent, t.stage.ToldBy sent → x.2.ToldBy (sent ++ new) := by
    obtain ⟨new, hnew, htold⟩ := hx
    exact ⟨new, hnew, fun sent _ ↦ htold sent⟩
  have goes_on {w' : World} {stage : Stage} (hw : ∃ new, w'.events = w.events ++ new)
      (hs : ∀ sent, stage.ToldBy sent) := of_reports (reports_of_trivial w hw hs)
  have stays {stage : Stage} (hs : ∀ sent, t.stage.ToldBy sent → stage.ToldBy sent) :
      ∃ new, w.events = w.events ++ new ∧ ∀ sent, t.stage.ToldBy sent →
      stage.ToldBy (sent ++ new) :=
    ⟨[], (List.append_nil _).symm, fun sent h ↦ by rw [List.append_nil]; exact hs sent h⟩
  show ∃ new, (stepStage env w t).1.events = _ ∧
    ∀ sent, t.stage.ToldBy sent → (stepStage env w t).2.ToldBy _
  unfold stepStage
  split
  · next e _ => exact of_reports (reports_runEdit env w t e)
  · next release reply _ =>
    have hack := reports_acknowledge { w with busy := w.busy.release release } reply
    exact of_reports (hack.after (List.append_nil _).symm)
  · next i _ => exact of_reports (reports_runInspection env w t i)
  · next g hs =>
    unfold runTalk
    split
    · next o hp =>
      obtain ⟨talk, phase⟩ := g
      cases hp
      exact stays fun sent h ↦ by rwa [hs] at h
    · next failure _ => exact of_reports (reports_fail w t failure)
    · rw [hs]
      exact g.toldBy_step env w
  · exact goes_on ⟨_, by rw [World.say, World.emit, World.events_commit]⟩ fun _ ↦ trivial
  · next result _ => exact of_reports (reports_reportConfigured w result)
  · next f _ _ => exact goes_on (f.events_step env w) fun _ ↦ trivial
  · split
    · exact goes_on ⟨_, rfl⟩ fun _ ↦ trivial
    · exact stays fun _ _ ↦ trivial
  · next result _ => exact of_reports (reports_reportListed w t result)
  · next f _ _ => exact goes_on (f.events_step env w) fun _ ↦ trivial
  · refine stays fun _ _ ↦ ?_
    unfold reportFetched
    split <;> trivial
  · next f _ _ => exact goes_on (f.events_step env w) fun _ ↦ trivial
  · next result _ => exact of_reports (reports_reportDescribed w t result)
  · next d _ _ => exact goes_on (d.events_step env w) fun _ ↦ trivial
  · next ending hs => exact stays fun sent h ↦ by rwa [hs] at h

/-- An answer lets a command go on in silence. -/
theorem Task.toldBy_answer {t : Task} {sent : List Event} (h : t.stage.ToldBy sent) (a : Answer) :
    (t.answer a).stage.ToldBy sent := by
  obtain ⟨agent, action, user, textMode, stage⟩ := t
  cases stage with
  | talk g =>
    obtain ⟨talk, phase⟩ := g
    cases a with
    | chat result => cases phase <;> exact h
    | models result => exact h
  | _ => cases a <;> exact h

end PersonaChat
