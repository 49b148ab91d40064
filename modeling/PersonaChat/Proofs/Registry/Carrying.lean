import PersonaChat.Desk.Edit
import PersonaChat.Proofs.Persona
import PersonaChat.Proofs.Registry.Lookup
import PersonaChat.Proofs.Removal

/-!
# What an edit does, and what it leaves when it fails

`Carries` lists the edits that are carried out, with what each has checked and the exact registry
that comes of it. An edit that fails leaves the registry as it is, but for the deletion of messages
from a private history, which enters the user among those who have one before it looks for the
messages. `settles_apply` says that there is nothing else.
-/

namespace PersonaChat

/-- What a change that a user makes to the persona of a name, when it is carried out, makes of a
registry. -/
inductive Change.Carries (agent user : String) (now : Int) (r : Registry Json) :
    Change → Registry Json → Prop where
  /-- The answers of a persona under way are out of date. -/
  | stopped {scope : Scope} {k : Nat} {p : Persona Json} (found : r.Designates agent k p) :
      Carries agent user now r (.stop scope) { r with agents := r.agents.set k p.bump }
  /-- A persona with the configuration of another one comes last. -/
  | copied {name : String} {k : Nat} {p : Persona Json} (found : r.Designates agent k p)
      (valid : Name.validate name r.names = .ok name) :
      Carries agent user now r (.copy name)
        (r.add (.fresh (.str name) p.model p.systemPrompt p.description now))
  /-- A persona has a new name, which differs from those of all other personas. -/
  | renamed {name : String} {others : List Json} {k : Nat} {p : Persona Json}
      (found : r.Designates agent k p) (others_eq : Edit.otherNames p.name r.names = .ok others)
      (valid : Name.validate name others = .ok name) :
      Carries agent user now r (.rename name)
        { r with agents := r.agents.set k { p with name := .str name } }
  /-- A persona has a new description. -/
  | described {text : String} {k : Nat} {p : Persona Json} (found : r.Designates agent k p) :
      Carries agent user now r (.describe text)
        { r with agents := r.agents.set k { p with description := .str text } }
  /-- A persona has the model that was referred to. -/
  | equipped {ref : String} {model : Json} {k : Nat} {p : Persona Json}
      (found : r.Designates agent k p)
      (resolved : Models.resolve ref r.models = .ok (some model)) :
      Carries agent user now r (.setModel ref)
        { r with agents := r.agents.set k { p with model := model } }
  /-- A persona has a new system prompt. -/
  | prompted {text : String} {k : Nat} {p : Persona Json} (found : r.Designates agent k p) :
      Carries agent user now r (.setPrompt text)
        { r with agents := r.agents.set k { p with systemPrompt := .str text } }
  /-- A persona is gone. -/
  | removed {k : Nat} {p : Persona Json} (found : r.Designates agent k p) :
      Carries agent user now r .delete { r with agents := r.agents.eraseIdx k }
  /-- The text of a message is another one. -/
  | reworded {scope : Scope} {index : Int} {indices : List Int} {text : String} {k : Nat}
      {p : Persona Json} (said : text ≠ "") (found : r.Designates agent k p)
      (present : ((p.history scope user).at? index).isSome) :
      Carries agent user now r (.editAt scope (index :: indices) text) { r with
        agents := r.agents.set k
          (p.setHistory scope user ((p.history scope user).setText index (.str text))).bump }
  /-- Messages of a history are gone. -/
  | thinned {scope : Scope} {indices : List Int} {k : Nat} {p : Persona Json}
      (found : r.Designates agent k p) (present : (p.history scope user).present indices ≠ []) :
      Carries agent user now r (.deleteAt scope indices) { r with
        agents := r.agents.set k
          (p.setHistory scope user ((p.history scope user).without indices)).bump }
  /-- A history is empty. -/
  | cleared {scope : Scope} {k : Nat} {p : Persona Json} (found : r.Designates agent k p) :
      Carries agent user now r (.clear scope)
        { r with agents := r.agents.set k (p.clear scope user).bump }
  /-- All shared histories are empty. -/
  | sharedCleared :
      Carries agent user now r .clearPublic
        { r with agents := r.agents.map Persona.clearShared }
  /-- All histories are empty. -/
  | allCleared :
      Carries agent user now r .clearEverything
        { r with agents := r.agents.map Persona.clearAll }
  /-- A persona is as a request to create it asks. -/
  | updated {request : CreateRequest} {model : Option Json} {k : Nat} {p : Persona Json}
      (found : r.Designates request.name k p)
      (resolved : Models.resolve request.model r.models = .ok model) :
      Carries agent user now r (.create request) { r with
        agents := r.agents.set k (Edit.updated p request (model.filter Json.isFilled)) }
  /-- A persona that a request asks for comes last. -/
  | created {request : CreateRequest} {model : Option Json}
      (valid : Name.validate request.name r.names = .ok request.name)
      (resolved : Models.resolve request.model r.models = .ok model) :
      Carries agent user now r (.create request)
        (r.add (Edit.created r request request.name (model.filter Json.isFilled) now))

namespace Edit

/-- What an edit that is carried out makes of a registry. -/
abbrev Carries (e : Edit) (now : Int) (r r' : Registry Json) : Prop :=
  e.change.Carries e.agent e.user now r r'

/-- What an edit that fails leaves: a deletion of messages has set the history to what it was. -/
def residue (e : Edit) (r : Registry Json) : Registry Json :=
  match e.change with
  | .deleteAt scope (_ :: _) =>
    r.update e.agent fun p ↦ p.setHistory scope e.user (p.history scope e.user)
  | _ => r

/-- What comes of an edit: what is carried out, or what is left when it fails. -/
def Settles (e : Edit) (now : Int) (r : Registry Json) (result : Result) : Prop :=
  match result.2 with
  | .ok _ => e.Carries now r result.1
  | .error _ => result.1 = e.residue r

/-- A name that passes the check is returned as it is. -/
theorem eq_of_validate {name result : String} {present : List Json}
    (h : Name.validate name present = .ok result) : result = name := by
  unfold Name.validate at h
  split at h
  · cases h
  · split at h
    · cases h
    · split at h
      · cases h
      · cases h
      · cases h
        rfl

variable {e : Edit} {agent user : String} {now : Int} {r : Registry Json}

/-- A failure that leaves the registry alone, in an edit that leaves nothing of its own. -/
private theorem settles_fail (h : e.residue r = r) (failure : Failure) :
    e.Settles now r (fail r failure) := h.symm

private theorem settles_onPersona {edit : Persona Json → Result}
    (hmissing : (∀ k p, ¬ r.Designates agent k p) → e.residue r = r)
    (h : ∀ k p, r.Designates agent k p → e.Settles now r (edit p)) :
    e.Settles now r (onPersona r agent edit) := by
  have missing (hf : ∀ p, r.find? agent ≠ .ok (some p)) : e.residue r = r :=
    hmissing fun k p hd ↦ hf p ((r.find?_eq_some_iff agent p).mpr ⟨k, hd⟩)
  unfold onPersona
  split
  · next hf => exact settles_fail (missing (by simp [hf])) _
  · next hf => exact settles_fail (missing (by simp [hf])) _
  · next p hf =>
    obtain ⟨k, hd⟩ := (r.find?_eq_some_iff agent p).mp hf
    exact h k p hd

variable (agent user now r)

private theorem settles_copy (name : String) :
    Settles ⟨agent, user, .copy name⟩ now r (copy r agent name now) := by
  unfold copy
  split
  · exact settles_fail rfl _
  · refine settles_onPersona (fun _ ↦ rfl) fun k p hd ↦ ?_
    split
    · exact settles_fail rfl _
    · next found hv =>
      cases eq_of_validate hv
      exact .copied hd hv

private theorem settles_rename (name : String) :
    Settles ⟨agent, user, .rename name⟩ now r (rename r agent name) := by
  unfold rename
  split
  · exact settles_fail rfl _
  · refine settles_onPersona (fun _ ↦ rfl) fun k p hd ↦ ?_
    split
    · exact settles_fail rfl _
    · next others ho =>
      split
      · exact settles_fail rfl _
      · next found hv =>
        cases eq_of_validate hv
        rw [Registry.update_of_designates hd]
        exact .renamed hd ho hv

private theorem settles_describe (text : String) :
    Settles ⟨agent, user, .describe text⟩ now r (describe r agent text) := by
  unfold describe
  split
  · exact settles_fail rfl _
  · refine settles_onPersona (fun _ ↦ rfl) fun k p hd ↦ ?_
    rw [Registry.update_of_designates hd]
    exact .described hd

private theorem settles_setModel (ref : String) :
    Settles ⟨agent, user, .setModel ref⟩ now r (setModel r agent ref) := by
  unfold setModel
  split
  · exact settles_fail rfl _
  · refine settles_onPersona (fun _ ↦ rfl) fun k p hd ↦ ?_
    split
    · exact settles_fail rfl _
    · next resolved hr =>
      split
      · exact settles_fail rfl _
      · next model hm =>
        rw [(Option.filter_eq_some_iff.mp hm).1] at hr
        rw [Registry.update_of_designates hd]
        exact .equipped hd hr

private theorem settles_setPrompt (text : String) :
    Settles ⟨agent, user, .setPrompt text⟩ now r (setPrompt r agent text) := by
  refine settles_onPersona (fun _ ↦ rfl) fun k p hd ↦ ?_
  rw [Registry.update_of_designates hd]
  exact .prompted hd

private theorem settles_editAt (scope : Scope) (indices : List Int) (text : String) :
    Settles ⟨agent, user, .editAt scope indices text⟩ now r
      (editAt r agent user scope indices text) := by
  unfold editAt
  split
  · exact settles_fail rfl _
  · split
    · exact settles_fail rfl _
    · next hsaid =>
      refine settles_onPersona (fun _ ↦ rfl) fun k p hd ↦ ?_
      split
      · exact settles_fail rfl _
      · next edited he =>
        obtain ⟨m, hm, rfl⟩ := Option.map_eq_some_iff.mp he
        rw [Registry.update_of_designates hd]
        exact .reworded hsaid hd (by simp [hm])

private theorem settles_deleteAt (scope : Scope) (indices : List Int) :
    Settles ⟨agent, user, .deleteAt scope indices⟩ now r
      (deleteAt r agent user scope indices) := by
  cases indices with
  | nil => exact settles_fail rfl _
  | cons index rest =>
    refine settles_onPersona (fun hnot ↦ Registry.update_of_not_designates hnot _) fun k p hd ↦ ?_
    rw [Persona.deleteAt_eq]
    dsimp only
    split
    · next habsent =>
      show r.update agent _ = r.update agent _
      rw [Registry.update_of_designates hd, Registry.update_of_designates hd,
        History.without_of_present_eq_nil (List.isEmpty_iff.mp habsent)]
    · next hpresent =>
      rw [Registry.update_of_designates hd]
      exact .thinned hd (mt List.isEmpty_iff.mpr hpresent)

private theorem settles_create (request : CreateRequest) :
    Settles ⟨agent, user, .create request⟩ now r (create r request now) := by
  unfold create
  split
  · exact settles_fail rfl _
  · exact settles_fail rfl _
  · next resolved p hr hf =>
    obtain ⟨k, hd⟩ := (r.find?_eq_some_iff request.name p).mp hf
    dsimp only
    rw [Registry.update_of_designates hd]
    exact .updated hd hr
  · next resolved hr hf =>
    split
    · exact settles_fail rfl _
    · next found hv =>
      cases eq_of_validate hv
      exact .created hv hr

variable (e)

/-- An edit is carried out, or it fails and leaves its residue. -/
theorem settles_apply : e.Settles now r (e.apply now r) := by
  obtain ⟨agent, user, change⟩ := e
  cases change with
  | stop scope =>
    refine settles_onPersona (fun _ ↦ rfl) fun k p hd ↦ ?_
    rw [Registry.update_of_designates hd]
    exact .stopped hd
  | copy name => exact settles_copy agent user now r name
  | rename name => exact settles_rename agent user now r name
  | describe text => exact settles_describe agent user now r text
  | setModel ref => exact settles_setModel agent user now r ref
  | setPrompt text => exact settles_setPrompt agent user now r text
  | delete =>
    refine settles_onPersona (fun _ ↦ rfl) fun k p hd ↦ ?_
    rw [Registry.remove_of_designates hd]
    exact .removed hd
  | editAt scope indices text => exact settles_editAt agent user now r scope indices text
  | deleteAt scope indices => exact settles_deleteAt agent user now r scope indices
  | clear scope =>
    refine settles_onPersona (fun _ ↦ rfl) fun k p hd ↦ ?_
    rw [Registry.update_of_designates hd]
    exact .cleared hd
  | clearPublic => exact .sharedCleared
  | clearEverything => exact .allCleared
  | create request => exact settles_create agent user now r request

/-- An edit that is carried out makes of the registry what `Carries` lists. -/
theorem carries_of_apply {done : EditDone} (h : (e.apply now r).2 = .ok done) :
    e.Carries now r (e.apply now r).1 := by
  have hs := e.settles_apply now r
  rwa [Settles, h] at hs

/-- An edit that fails leaves its residue. -/
theorem residue_of_apply {failure : Failure} (h : (e.apply now r).2 = .error failure) :
    (e.apply now r).1 = e.residue r := by
  have hs := e.settles_apply now r
  rwa [Settles, h] at hs

end Edit
end PersonaChat
