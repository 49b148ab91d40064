import PersonaChat.Desk.Task

/-!
# What talking and saving leave alone

Sending something to the user, making a record and putting a question change nothing but what has
been sent and recorded: one lemma for each says so, and the registry, the busy conversations and
the disk follow. Saving and committing a registry change the disk, and leave the busy conversations
and what has been sent alone. What is sent is listed as well, and what of it is for the user.
-/

namespace PersonaChat

namespace World

/-- The second world differs from the first in that more has been sent, and in the records,
only. -/
def Speaks (w w' : World) : Prop :=
  ∃ new log, w' = { w with events := w.events ++ new, log := log }

namespace Speaks

variable {w w' w'' : World}

/-- Saying nothing is speaking. -/
theorem refl (w : World) : Speaks w w := ⟨[], w.log, by rw [List.append_nil]⟩

/-- Nothing is said where the world stays the same. -/
theorem of_eq (h : w' = w) : Speaks w w' := by
  rw [h]
  exact .refl w

/-- Speaking twice is speaking. -/
theorem trans (h : Speaks w w') (h' : Speaks w' w'') : Speaks w w'' := by
  obtain ⟨new, log, rfl⟩ := h
  obtain ⟨new', log', rfl⟩ := h'
  exact ⟨new ++ new', log', by rw [List.append_assoc]⟩

/-- What has been sent stays sent. -/
theorem events (h : Speaks w w') : ∃ new, w'.events = w.events ++ new := by
  obtain ⟨new, log, rfl⟩ := h
  exact ⟨new, rfl⟩

/-- Speaking leaves the registry alone. -/
theorem registry (h : Speaks w w') : w'.registry = w.registry := by
  obtain ⟨new, log, rfl⟩ := h
  rfl

/-- Speaking leaves the busy conversations alone. -/
theorem busy (h : Speaks w w') : w'.busy = w.busy := by
  obtain ⟨new, log, rfl⟩ := h
  rfl

/-- Speaking leaves the disk alone. -/
theorem disk (h : Speaks w w') : w'.disk = w.disk := by
  obtain ⟨new, log, rfl⟩ := h
  rfl

end Speaks

variable (env : Surroundings) (w : World)

/-- Sending something speaks. -/
theorem speaks_emit (e : Event) : w.Speaks (w.emit e) := ⟨_, _, rfl⟩

/-- Saying something speaks. -/
theorem speaks_say (text : String) : w.Speaks (w.say text) := ⟨_, _, rfl⟩

/-- Saying something leaves the registry alone. -/
@[simp] theorem registry_say (text : String) : (w.say text).registry = w.registry := rfl

/-- Saying something leaves the busy conversations alone. -/
@[simp] theorem busy_say (text : String) : (w.say text).busy = w.busy := rfl

private theorem speaks_relog (log : List LogRecord) : w.Speaks { w with log := log } :=
  ⟨[], log, by rw [List.append_nil]⟩

/-- Making a record speaks. -/
theorem speaks_note (level : LogLevel) (message : String) (fields : List (String × Json)) :
    w.Speaks (w.note level message fields) := w.speaks_relog _

/-- A record leaves the registry alone. -/
@[simp] theorem registry_note (level : LogLevel) (message : String)
    (fields : List (String × Json)) :
    (w.note level message fields).registry = w.registry := rfl

/-- A save fails into a record or not at all; either way it moves on from the disk and the
troubles. -/
theorem save_eq : ∃ disk serial troubles log, w.save env =
    { w with disk := disk, serial := serial, troubles := troubles, log := log } := by
  unfold save
  dsimp only
  split
  · exact ⟨_, _, _, w.log, rfl⟩
  · exact ⟨_, _, _, _, rfl⟩

/-- A save leaves the registry alone. -/
@[simp] theorem registry_save : (w.save env).registry = w.registry := by
  obtain ⟨disk, serial, troubles, log, h⟩ := save_eq env w
  rw [h]

/-- A save leaves the busy conversations alone. -/
@[simp] theorem busy_save : (w.save env).busy = w.busy := by
  obtain ⟨disk, serial, troubles, log, h⟩ := save_eq env w
  rw [h]

/-- A save sends nothing. -/
@[simp] theorem events_save : (w.save env).events = w.events := by
  obtain ⟨disk, serial, troubles, log, h⟩ := save_eq env w
  rw [h]

/-- A commit leaves the disk that the save makes. -/
theorem disk_commit (r : Registry Json) : (w.commit env r).disk =
    (env.vault.save w.disk (Vault.encode r) w.serial (w.troubles.headD none)).1 := by
  unfold commit save
  dsimp only
  split <;> rfl

/-- A commit makes a registry the one of the world. -/
@[simp] theorem registry_commit (r : Registry Json) : (w.commit env r).registry = r := by
  simp [commit]

/-- A commit leaves the busy conversations alone. -/
@[simp] theorem busy_commit (r : Registry Json) : (w.commit env r).busy = w.busy := by
  simp [commit]

/-- A commit sends nothing. -/
@[simp] theorem events_commit (r : Registry Json) : (w.commit env r).events = w.events := by
  simp [commit]

/-- Showing a text speaks. -/
theorem speaks_present (text : String) (textMode : Bool) (title : String) :
    w.Speaks (w.present env text textMode title) := by
  unfold present
  split
  · exact w.speaks_say text
  · exact w.speaks_say text
  · dsimp only
    split
    · exact (w.speaks_emit _).trans (speaks_emit _ _)
    · exact ((w.speaks_emit _).trans (speaks_note _ _ _ _)).trans (speaks_say _ _)

private theorem speaks_sendImage (url : String) : w.Speaks (w.sendImage url) := by
  unfold sendImage
  split
  · split
    · exact w.speaks_emit _
    · exact .refl w
  · exact w.speaks_emit _

private theorem speaks_foldl_sendImage (urls : List String) :
    w.Speaks (urls.foldl sendImage w) := by
  induction urls generalizing w with
  | nil => exact .refl w
  | cons url urls ih => exact (w.speaks_sendImage url).trans (ih _)

/-- Sending pictures speaks. -/
theorem speaks_sendImages (urls : List Json) : w.Speaks (w.sendImages urls).1 := by
  induction urls generalizing w with
  | nil => exact .refl w
  | cons url urls ih =>
    unfold sendImages
    split
    · exact (w.speaks_sendImage _).trans (ih _)
    · exact .refl w

private theorem speaks_sendVideos (urls : List String) : w.Speaks (w.sendVideos urls) := by
  unfold sendVideos
  induction urls generalizing w with
  | nil => exact .refl w
  | cons url urls ih => exact (w.speaks_emit _).trans (ih _)

/-- Putting a question speaks. -/
theorem speaks_ask (query : Query) : w.Speaks (w.ask env query).1 := by
  unfold ask
  split
  · exact w.speaks_emit _
  · split
    · exact w.speaks_emit _
    · exact .refl w

end World

namespace Generation

variable (env : Surroundings) (w : World) (t : Talk)

/-- Freeing a conversation leaves the registry alone. -/
@[simp] theorem registry_release (token : Nat) : (release w t token).registry = w.registry := rfl

private theorem speaks_noteTimeout (result : Except Failure (Option String)) :
    w.Speaks (noteTimeout env w t result) := by
  unfold noteTimeout
  split
  · exact w.speaks_note _ _ _
  · exact .refl w

/-- Recording a timeout leaves the registry alone. -/
@[simp] theorem registry_noteTimeout (result : Except Failure (Option String)) :
    (noteTimeout env w t result).registry = w.registry :=
  (speaks_noteTimeout env w t result).registry

/-- Recording a timeout leaves the busy conversations alone. -/
@[simp] theorem busy_noteTimeout (result : Except Failure (Option String)) :
    (noteTimeout env w t result).busy = w.busy :=
  (speaks_noteTimeout env w t result).busy

private theorem speaks_deliver (title content : String) :
    w.Speaks (deliver env w t title content) :=
  ((w.speaks_present env _ _ _).trans (World.speaks_foldl_sendImage _ _)).trans
    (World.speaks_sendVideos _ _)

/-- Sending the answer that is stored speaks. -/
theorem speaks_reply (ticket : Ticket) (index : Nat) (content : String) :
    w.Speaks (reply env w t ticket index content) :=
  (w.speaks_note _ _ _).trans (speaks_deliver env _ t _ content)

/-- Sending an answer leaves the registry alone. -/
@[simp] theorem registry_reply (ticket : Ticket) (index : Nat) (content : String) :
    (reply env w t ticket index content).registry = w.registry :=
  (speaks_reply env w t ticket index content).registry

/-- Sending an answer leaves the busy conversations alone. -/
@[simp] theorem busy_reply (ticket : Ticket) (index : Nat) (content : String) :
    (reply env w t ticket index content).busy = w.busy :=
  (speaks_reply env w t ticket index content).busy

private theorem speaks_ask (ticket : Ticket) : w.Speaks (ask env w t ticket).1 := by
  have hnote : w.Speaks (note w t .info "Calling provider" [("model", ticket.request.model),
      ("message_count", .int ticket.request.messages.length)]) := w.speaks_note _ _ _
  unfold ask
  dsimp only
  split
  · exact hnote
  · split
    · exact hnote
    · have hask := hnote.trans (World.speaks_ask env _ (.chat ticket.api ticket.request))
      split
      · next h => rwa [h] at hask
      · next h => rwa [h] at hask

/-- Putting the question of a generation leaves the registry alone. -/
@[simp] theorem registry_ask (ticket : Ticket) : (ask env w t ticket).1.registry = w.registry :=
  (speaks_ask env w t ticket).registry

/-- Putting the question of a generation leaves the busy conversations alone. -/
@[simp] theorem busy_ask (ticket : Ticket) : (ask env w t ticket).1.busy = w.busy :=
  (speaks_ask env w t ticket).busy

end Generation

/-! ### What is sent -/

/-- Whether something that leaves the service is for the user. -/
def Event.reaches : Event → Bool
  | .text _ | .image _ | .video _ | .upload .. => true
  | .render .. | .fetch _ | .ask _ | .call _ => false

/-- Nothing of what was sent is for the user. -/
def Silent (sent : List Event) : Prop := ∀ e ∈ sent, e.reaches = false

instance : DecidablePred Silent := fun sent ↦
  inferInstanceAs (Decidable (∀ e ∈ sent, e.reaches = false))

/-- Nothing at all is silent. -/
theorem silent_nil : Silent [] := nofun

/-- What is sent is silent if all its parts are. -/
theorem silent_append {sent more : List Event} : Silent (sent ++ more) ↔
    Silent sent ∧ Silent more :=
  List.forall_mem_append

/-- What reaches the user breaks the silence. -/
theorem not_silent_of_mem {sent : List Event} {e : Event} (he : e ∈ sent) (hr : e.reaches = true) :
    ¬ Silent sent := fun hs ↦ Bool.false_ne_true ((hs e he).symm.trans hr)

namespace World

/-- What a user gets for a text: the text itself, or the attempt at a picture and what comes of
it. -/
def presentation (env : Surroundings) (text : String) (textMode : Bool) (title : String) :
    List Event :=
  match env.renderer, textMode with
  | none, _ | _, true => [.text (.str text)]
  | some draw, false =>
    .render title text :: match draw text title with
      | .ok picture => [.image ("base64://" ++ picture)]
      | .error _ => [.text (.str (Media.replaceData "[图片渲染失败]" text))]

/-- What a user gets for a picture. -/
def picture (url : String) : List Event :=
  if Media.isDataAddress url then
    ((Media.payload? url).map fun payload ↦ .image ("base64://" ++ payload)).toList
  else [.image url]

variable (env : Surroundings) (w : World)

/-- A text that is shown is sent as a text, or drawn and sent as what comes of that. -/
@[simp] theorem events_present (text : String) (textMode : Bool) (title : String) :
    (w.present env text textMode title).events = w.events ++
    presentation env text textMode title := by
  unfold present presentation
  cases hr : env.renderer with
  | none => rfl
  | some draw =>
    cases textMode with
    | true => rfl
    | false =>
      dsimp only
      cases draw text title <;> simp [emit, say, note]

/-- A text reaches its user, whether it can be drawn or not. -/
theorem not_silent_presentation (text : String) (textMode : Bool) (title : String) :
    ¬ Silent (presentation env text textMode title) := by
  unfold presentation
  split
  · exact not_silent_of_mem List.mem_cons_self rfl
  · exact not_silent_of_mem List.mem_cons_self rfl
  · split
    · exact not_silent_of_mem (List.mem_cons_of_mem _ List.mem_cons_self) rfl
    · exact not_silent_of_mem (List.mem_cons_of_mem _ List.mem_cons_self) rfl

/-- A picture is sent as what the user gets for it. -/
@[simp] theorem events_sendImage (url : String) :
    (w.sendImage url).events = w.events ++ picture url := by
  unfold sendImage picture
  split
  · split
    · next h => simp [emit, h]
    · next h => simp [h]
  · rfl

/-- Pictures are sent in their order. -/
@[simp] theorem events_foldl_sendImage (urls : List String) :
    (urls.foldl sendImage w).events = w.events ++ urls.flatMap picture := by
  induction urls generalizing w with
  | nil => simp
  | cons url urls ih =>
      rw [List.foldl_cons, ih, events_sendImage, List.flatMap_cons, List.append_assoc]

/-- Videos are sent in their order. -/
@[simp] theorem events_sendVideos (urls : List String) :
    (w.sendVideos urls).events = w.events ++ urls.map .video := by
  unfold sendVideos
  induction urls generalizing w with
  | nil => simp
  | cons url urls ih =>
    rw [List.foldl_cons, ih, emit, List.map_cons, List.append_assoc]
    rfl

/-- From the first world to the second nothing is sent to a user. -/
def Quiet (w w' : World) : Prop := ∃ new, w'.events = w.events ++ new ∧ Silent new

/-- Where nothing is sent all is quiet. -/
theorem Quiet.of_events_eq {w w' : World} (h : w'.events = w.events) : w.Quiet w' :=
  ⟨[], by rw [h, List.append_nil], silent_nil⟩

/-- A question is not for the user. -/
theorem quiet_ask (query : Query) : w.Quiet (w.ask env query).1 := by
  unfold ask
  split
  · exact ⟨[.ask query], rfl, by simp [Silent, Event.reaches]⟩
  · split
    · next call _ => exact ⟨[.call call], rfl, by simp [Silent, Event.reaches]⟩
    · exact .of_events_eq rfl

end World

/-- What a user gets for an answer: its text, its pictures and its videos. -/
def Generation.delivery (env : Surroundings) (t : Talk) (title content : String) : List Event :=
  World.presentation env (shownAnswer t content (Media.pictures content)) t.textMode title ++
    (Media.pictures content).flatMap World.picture ++ (Media.videos content).map .video

/-- An answer is sent with its pictures and its videos. -/
@[simp] theorem Generation.events_deliver (env : Surroundings) (w : World) (t : Talk)
    (title content : String) :
    (deliver env w t title content).events = w.events ++ delivery env t title content := by
  simp [deliver, delivery]

/-- Sending the answer that is stored sends it under its number. -/
@[simp] theorem Generation.events_reply (env : Surroundings) (w : World) (t : Talk)
    (ticket : Ticket)
    (index : Nat) (content : String) :
    (reply env w t ticket index content).events =
      w.events ++ delivery env t (title t ticket.persona index) content := by
  rw [reply, events_deliver]
  rfl

/-! ### A whole run -/

namespace Task

variable (env : Surroundings) {P : World → Task → Prop}

private theorem proceed_of_step (hstep : ∀ w t, P w t → P (t.step env w).1 (t.step env w).2)
    (steps : Nat) {w : World} {t : Task} (h : P w t) :
    P (proceed env steps w t).1 (proceed env steps w t).2 := by
  induction steps generalizing w t with
  | zero => exact h
  | succ steps ih =>
    unfold proceed
    split
    · exact h
    · exact ih (hstep w t h)

/-- What every section preserves, and every answer of a kind that the script gives, holds after a
whole run. -/
theorem run_of_replies {Q : Answer → Prop}
    (hstep : ∀ w t, P w t → P (t.step env w).1 (t.step env w).2)
    (hanswer : ∀ w t a, Q a → P w t → P w (t.answer a)) {script : Script}
    (hreplies : ∀ reply ∈ script.replies, ∀ query, Q (reply query))
    (hfallback : ∀ query, Q (script.fallback query)) {w : World} {t : Task} (h : P w t) :
    P (t.run env script w).1 (t.run env script w).2 := by
  have hconverse (questions : Nat) (replies : List (Query → Answer))
      (hreplies : ∀ reply ∈ replies, ∀ query, Q (reply query)) (w : World) (t : Task) (h : P w t) :
      P (converse env script.fallback questions replies w t).1
        (converse env script.fallback questions replies w t).2 := by
    induction questions generalizing w t replies with
    | zero => exact h
    | succ questions ih =>
      unfold converse
      split
      · exact h
      · next query _ =>
        have hgiven : Q (replies.headD script.fallback query) := by
          cases replies with
          | nil => exact hfallback query
          | cons reply rest => exact hreplies reply List.mem_cons_self query
        exact ih _ (fun reply hreply ↦ hreplies reply (List.mem_of_mem_tail hreply)) _ _
          (proceed_of_step env hstep _ (hanswer w t _ hgiven h))
  exact hconverse _ _ hreplies _ _ (proceed_of_step env hstep _ h)

/-- What every section and every answer preserve holds after a whole run. -/
theorem run_of_step (hstep : ∀ w t, P w t → P (t.step env w).1 (t.step env w).2)
    (hanswer : ∀ w t a, P w t → P w (t.answer a)) (script : Script) {w : World} {t : Task}
    (h : P w t) : P (t.run env script w).1 (t.run env script w).2 :=
  run_of_replies (Q := fun _ ↦ True) env hstep (fun w t a _ ↦ hanswer w t a)
    (fun _ _ _ ↦ trivial) (fun _ ↦ trivial) h

end Task

end PersonaChat
