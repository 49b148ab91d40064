import PersonaChat.Desk.Task

/-!
# Refusals for want of a persona

A command is refused for many reasons, and for want of a persona only where none of the name is
found. An edit and a look that find their persona are refused for other reasons, if at all, and
neither the client nor an answer that it reads says that something does not exist.
-/

namespace PersonaChat

/-! ### Refusals for want of a persona -/

/-- Something does not exist. -/
def Refusal.IsNotFound (refusal : Refusal) : Prop := refusal.kind = .notFound

/-- It is said that no persona has some name. -/
def Refusal.DeniesPersona (refusal : Refusal) : Prop :=
  refusal.IsNotFound ∧ ∃ name, refusal.message = (unknownPersona name).message

/-- A command ends because no persona has some name. -/
def Ending.DeniesPersona : Ending → Prop
  | .outcome told => ∃ name, told = .ofText .notFound (Refusal.unknownPersona name).message
  | .raised (.refused refusal) => refusal.code = "AGENT_NOT_FOUND"
  | .raised (.crashed _) | .models _ => False

/-- A result is as it should be, or a failure other than a bad refusal. -/
def Failure.Avoids {α : Type} (bad : Refusal → Prop) (good : α → Prop) : Except Failure α → Prop
  | .ok a => good a
  | .error (.refused refusal) => ¬ bad refusal
  | .error (.crashed _) => True

namespace Refusal

/-- A refusal that is not for something missing does not deny a persona. -/
theorem not_deniesPersona {refusal : Refusal} (h : ¬ refusal.IsNotFound) :
    ¬ refusal.DeniesPersona :=
  fun hdenies ↦ h hdenies.1

private theorem not_deniesPersona_invalid (code message : String) :
    ¬ (invalid code message).DeniesPersona :=
  not_deniesPersona nofun

/-- A position is not taken for a persona, as what is said of it ends in another character. -/
theorem not_deniesPersona_unknownIndex {message : String}
    (h : message.toList.getLast? = some '效') :
    ¬ (unknownIndex message).DeniesPersona := by
  rintro ⟨-, name, hname⟩
  have hmessage : message = name ++ " 不存在" := hname
  have hlast : " 不存在".toList.getLast? = some '在' := by decide
  rw [hmessage, String.toList_append, List.getLast?_append, hlast, Option.some_or] at h
  exact absurd h (by decide)

end Refusal

namespace Failure

variable {α β : Type} {bad : Refusal → Prop} {good : α → Prop} {good' : β → Prop}
  {failure : Failure}

/-- Of a failure only the refusal matters, not what should have come of it. -/
theorem avoids_error (h : Avoids bad good (.error failure)) :
    Avoids bad good' (.error failure) := by
  cases failure <;> exact h

private theorem avoids_bind {x : Except Failure α} {f : α → Except Failure β}
    (hx : Avoids bad good x)
    (hf : ∀ a, good a → Avoids bad good' (f a)) : Avoids bad good' (x >>= f) := by
  rcases x with failure | a
  · exact avoids_error hx
  · exact hf a hx

private theorem avoids_map {x : Except Failure α} {f : α → β} (hx : Avoids bad good x)
    (hf : ∀ a, good' (f a)) : Avoids bad good' (x.map f) := by
  rcases x with failure | a
  · exact avoids_error hx
  · exact hf a

private theorem avoids_ofCrash (result : Except Crash α) :
    Avoids bad (fun _ ↦ True) (ofCrash result) := by
  cases result <;> trivial

/-- Fewer refusals are denials than say that something does not exist. -/
theorem Avoids.deniesPersona {result : Except Failure α}
    (h : Avoids Refusal.IsNotFound good result) :
    Avoids Refusal.DeniesPersona good result := by
  rcases result with (refusal | crash) | a
  · exact Refusal.not_deniesPersona h
  · trivial
  · exact h

end Failure

open Failure

/-! ### Edits -/

namespace Edit

/-- A persona of the name that an edit looks up is found, or the search for it crashes. -/
def Finds (r : Registry Json) (e : Edit) : Prop :=
  match e.change with
  | .clearPublic | .clearEverything | .create _ => True
  | _ => r.find? e.agent ≠ .ok none

variable {r : Registry Json} {agent : String}

/-- Every edit that comes to an end is accepted; which text it is accepted with does not matter. -/
def Spares (result : Result) : Prop := Avoids Refusal.DeniesPersona (fun _ ↦ True) result.2

private theorem spares_invalid (r : Registry Json) (code message : String) :
    Spares (refuse r (.invalid code message)) := Refusal.not_deniesPersona_invalid code message

private theorem spares_onPersona {edit : Persona Json → Result} (hfound : r.find? agent ≠ .ok none)
    (hedit : ∀ p, Spares (edit p)) : Spares (onPersona r agent edit) := by
  unfold onPersona
  split
  · trivial
  · next hnone => exact absurd hnone hfound
  · exact hedit _

private theorem avoids_validate (name : String) (present : List Json) :
    Avoids Refusal.DeniesPersona (fun _ ↦ True) (Name.validate name present) := by
  unfold Name.validate
  split
  · exact Refusal.not_deniesPersona_invalid _ _
  · split
    · exact Refusal.not_deniesPersona_invalid _ _
    · split
      · trivial
      · exact Refusal.not_deniesPersona_invalid _ _
      · trivial

/-- A new name is refused for itself or for a persona that has it. -/
theorem spares_validated {name : String} {present : List Json} {go : String → Result}
    (hgo : ∀ name, Spares (go name)) : Spares (match Name.validate name present with
      | .error failure => fail r failure
      | .ok name => go name) := by
  have hvalid := avoids_validate name present
  split
  · next h =>
    rw [h] at hvalid
    exact avoids_error hvalid
  · exact hgo _

private theorem spares_copy (hfound : r.find? agent ≠ .ok none) (name : String) (now : Int) :
    Spares (copy r agent name now) := by
  unfold copy
  split
  · exact spares_invalid r _ _
  · exact spares_onPersona hfound fun p ↦ spares_validated fun _ ↦ trivial

private theorem spares_rename (hfound : r.find? agent ≠ .ok none) (name : String) :
    Spares (rename r agent name) := by
  unfold rename
  split
  · exact spares_invalid r _ _
  · refine spares_onPersona hfound fun p ↦ ?_
    split
    · trivial
    · exact spares_validated fun _ ↦ trivial

private theorem spares_setModel (hfound : r.find? agent ≠ .ok none) (ref : String) :
    Spares (setModel r agent ref) := by
  unfold setModel
  split
  · exact spares_invalid r _ _
  · refine spares_onPersona hfound fun p ↦ ?_
    split
    · trivial
    · split
      · exact spares_invalid r _ _
      · trivial

private theorem spares_editAt (hfound : r.find? agent ≠ .ok none) (user : String) (scope : Scope)
    (indices : List Int) (text : String) : Spares (editAt r agent user scope indices text) := by
  unfold editAt
  split
  · exact spares_invalid r _ _
  · split
    · exact spares_invalid r _ _
    · refine spares_onPersona hfound fun p ↦ ?_
      split
      · refine Refusal.not_deniesPersona_unknownIndex ?_
        rw [String.toList_append, List.getLast?_append]
        rfl
      · trivial

private theorem spares_deleteAt (hfound : r.find? agent ≠ .ok none) (user : String) (scope : Scope)
    (indices : List Int) : Spares (deleteAt r agent user scope indices) := by
  unfold deleteAt
  split
  · exact spares_invalid r _ _
  · refine spares_onPersona hfound fun p ↦ ?_
    dsimp only
    split
    · exact Refusal.not_deniesPersona_unknownIndex rfl
    · trivial

private theorem spares_create (request : CreateRequest) (now : Int) :
    Spares (create r request now) := by
  unfold create
  split
  · trivial
  · trivial
  · trivial
  · exact spares_validated fun _ ↦ trivial

/-- An edit that finds its persona is not refused for want of one. -/
theorem Finds.spares {e : Edit} (h : e.Finds r) (now : Int) : Spares (e.apply now r) := by
  obtain ⟨agent, user, change⟩ := e
  cases change with
  | stop scope => exact spares_onPersona h fun _ ↦ trivial
  | copy name => exact spares_copy h name now
  | rename name => exact spares_rename h name
  | describe text =>
    show Spares (describe r agent text)
    unfold describe
    split
    · exact spares_invalid r _ _
    · exact spares_onPersona h fun _ ↦ trivial
  | setModel ref => exact spares_setModel h ref
  | setPrompt text => exact spares_onPersona h fun _ ↦ trivial
  | delete => exact spares_onPersona h fun _ ↦ trivial
  | editAt scope indices text => exact spares_editAt h user scope indices text
  | deleteAt scope indices => exact spares_deleteAt h user scope indices
  | clear scope => exact spares_onPersona h fun _ ↦ trivial
  | clearPublic => trivial
  | clearEverything => trivial
  | create request => exact spares_create request now

end Edit

/-! ### Looking -/

namespace Inspection

/-- The persona that is looked at, if it is a single one. -/
def agent? : Inspection → Option String
  | .prompt agent | .wholeHistory agent _ | .positions agent _ _
  | .exportFile agent _ => some agent
  | .personas | .models | .help => none

/-- A persona of the name that is looked up is found, or the search for it crashes. -/
def Finds (r : Registry Json) (i : Inspection) : Prop :=
  ∀ agent ∈ i.agent?, r.find? agent ≠ .ok none

variable {env : Surroundings} {w : World} {agent user : String} {textMode : Bool}

/-- What is looked at is shown, or the look fails otherwise than for want of a persona. -/
def Spares (result : Result) : Prop :=
  Avoids Refusal.DeniesPersona (fun outcome ↦ outcome.kind = .ok) result.2

private theorem spares_attempt {α : Type} {value : Except Crash α} {go : α → Result}
    (h : ∀ a, Spares (go a)) : Spares (attempt w value go) := by
  unfold attempt
  split
  · trivial
  · exact h _

private theorem spares_attemptShowing {α : Type} {scope : Scope} {indices : List Int}
    {shown : Except Crash α} {go : α → Result} (h : ∀ a, Spares (go a)) :
    Spares (attemptShowing w agent user scope indices textMode shown go) := by
  unfold attemptShowing
  split
  · trivial
  · exact h _

private theorem spares_onPersona {look : Persona Json → Result}
    (hfound : w.registry.find? agent ≠ .ok none)
    (hlook : ∀ p, Spares (look p)) : Spares (onPersona w agent look) := by
  unfold onPersona attempt
  split
  · trivial
  · next found hfind =>
    cases found with
    | none => exact absurd hfind hfound
    | some p => exact hlook p

private theorem spares_showPositions (hfound : w.registry.find? agent ≠ .ok none) (scope : Scope)
    (indices : List Int) : Spares (showPositions env w textMode user agent scope indices) := by
  unfold showPositions
  split
  · exact Refusal.not_deniesPersona_invalid _ _
  · refine spares_onPersona hfound fun p ↦ spares_attemptShowing fun shown ↦ ?_
    split
    · exact Refusal.not_deniesPersona_unknownIndex rfl
    · refine spares_attempt fun pictures ↦ ?_
      dsimp only
      split
      · rfl
      · trivial

private theorem spares_sendFile (name content : String) :
    Spares (sendFile env w name content) := by
  unfold sendFile
  dsimp only
  split
  · exact Refusal.not_deniesPersona nofun
  · split
    · trivial
    · split
      · exact Refusal.not_deniesPersona nofun
      · split
        · exact Refusal.not_deniesPersona nofun
        · rfl

private theorem spares_exportHistory (hfound : w.registry.find? agent ≠ .ok none) (scope : Scope) :
    Spares (exportHistory env w user agent scope) := by
  refine spares_onPersona hfound fun p ↦ ?_
  dsimp only
  split
  · rfl
  · exact spares_attempt fun content ↦ spares_attempt fun name ↦ spares_sendFile name content

/-- A look that finds its persona is not refused for want of one, and where it shows something all
is well. -/
theorem Finds.spares {i : Inspection} (h : i.Finds w.registry) (env : Surroundings) (user : String)
    (textMode : Bool) : Spares (i.run env w user textMode) := by
  cases i with
  | prompt agent =>
    refine spares_onPersona (h agent rfl) fun p ↦ ?_
    split <;> rfl
  | personas =>
    refine spares_attempt fun content ↦ ?_
    split <;> rfl
  | models =>
    refine spares_attempt fun content ↦ ?_
    split <;> rfl
  | wholeHistory agent scope =>
    refine spares_onPersona (h agent rfl) fun p ↦ ?_
    dsimp only
    split
    · rfl
    · exact spares_attemptShowing fun content ↦ rfl
  | positions agent scope indices => exact spares_showPositions (h agent rfl) scope indices
  | exportFile agent scope => exact spares_exportHistory (h agent rfl) scope
  | help => rfl

end Inspection

/-! ### The provider -/

/-- An answer of a provider that knows nothing of personas: it is not refused because something
does not exist. -/
def Answer.Foreign : Answer → Prop
  | .chat result => Avoids Refusal.IsNotFound (fun _ ↦ True) result
  | .models result => Avoids Refusal.IsNotFound (fun _ ↦ True) result

/-- A script of such answers. -/
def Task.Script.Foreign (script : Task.Script) : Prop :=
  (∀ reply ∈ script.replies, ∀ query, (reply query).Foreign) ∧ ∀ query,
  (script.fallback query).Foreign

namespace Client

private theorem avoids_call (timeout : Int) (query : Query) :
    Avoids Refusal.IsNotFound (fun _ ↦ True) (call timeout query) := by
  unfold call
  refine avoids_bind (avoids_ofCrash _) fun e _ ↦ ?_
  dsimp only
  split
  · nofun
  · cases query with
    | chat api request => exact avoids_bind (avoids_ofCrash _) fun _ _ ↦ trivial
    | models api => trivial

private theorem avoids_object (status : Int) (body : List UInt8) :
    Avoids Refusal.IsNotFound (fun _ ↦ True) (object status body) := by
  unfold object
  split
  · nofun
  · trivial
  · split
    · trivial
    · nofun

private theorem avoids_accept (answer : HttpAnswer) :
    Avoids Refusal.IsNotFound (fun _ ↦ True) (accept answer) := by
  cases answer with
  | answered status body =>
    unfold accept
    dsimp only
    split
    · nofun
    · split
      · nofun
      · exact avoids_map (avoids_object status body) fun _ ↦ trivial
  | requestFailed message => nofun
  | clientFailed crash => trivial

private theorem avoids_chatResult (model j : Json) :
    Avoids Refusal.IsNotFound (fun _ ↦ True) (ofRefusal (chatResult model j)) := by
  unfold chatResult
  split
  · trivial
  · split
    · trivial
    · nofun
  · nofun

private theorem avoids_modelIds (status : Int) (j : Json) :
    Avoids Refusal.IsNotFound (fun _ ↦ True) (ofRefusal (modelIds status j)) := by
  unfold modelIds
  split
  · trivial
  · trivial
  · nofun

/-- Whatever comes back over HTTP, no answer that is read from it says that something does not
exist. -/
theorem foreign_read (query : Query) (answer : HttpAnswer) : (read query answer).Foreign := by
  cases query with
  | chat api request =>
    exact avoids_map (avoids_bind (avoids_accept answer) fun _ _ ↦ avoids_chatResult _ _)
      fun _ ↦ trivial
  | models api => exact avoids_bind (avoids_accept answer) fun _ _ ↦ avoids_modelIds _ _

end Client

/-- Putting a question is not refused for want of something. -/
theorem World.avoids_ask (env : Surroundings) (w : World) (query : Query) :
    Avoids Refusal.IsNotFound (fun _ ↦ True) (w.ask env query).2 := by
  unfold ask
  split
  · trivial
  · next timeout _ =>
    have hcall := Client.avoids_call timeout query
    split
    · trivial
    · next failure h =>
      rw [h] at hcall
      exact avoids_error hcall

end PersonaChat
