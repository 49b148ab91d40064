import PersonaChat.Gate
import PersonaChat.Proofs.Desk.Ownership
import PersonaChat.Proofs.Desk.Texts
import PersonaChat.Proofs.Registry.Typed

/-!
# The gates that sections pass

One gate stands before the registry and one before the busy conversations. A section passes one of
them at most, to read or to write, and leaves it again however the section ends. What a section
changes is behind the gate that it has passed to write. Main statement: a task that runs alone
never waits at a gate, and leaves both free.

Spec guidance: `SPEC_FULL.md`, lines 146–147.
-/

namespace PersonaChat

/-! ### Which gate a section passes -/

/-- What stands behind a gate. -/
inductive Room where
  /-- The registry. -/
  | registry
  /-- The busy conversations. -/
  | busy
  deriving DecidableEq, Repr

/-- A change that lacks a word or a position that it needs. It is refused before the persona is
looked for. -/
def Change.isVoid : Change → Bool
  | .copy name | .rename name => name == ""
  | .describe text => text == ""
  | .setModel ref => ref == ""
  | .editAt _ indices text => indices.isEmpty || text == ""
  | .deleteAt _ indices => indices.isEmpty
  | .stop _ | .setPrompt _ | .delete | .clear _ | .clearPublic | .clearEverything
  | .create _ => false

/-- Whether the help text is shown, or no positions are to be shown. -/
def Inspection.isVoid : Inspection → Bool
  | .positions _ _ indices => indices.isEmpty
  | .help => true
  | .prompt _ | .personas | .models | .wholeHistory .. | .exportFile .. => false

/-- The gate that the next section of a generation passes. -/
def Phase.room? : Phase → Option (Room × Access)
  | .asked => some (.registry, .read)
  | .occupied .. | .freed _ (.ok _) => some (.registry, .write)
  | .admitted _ | .rejected .. | .answered .. => some (.busy, .write)
  | .started _ | .waiting _ | .freed _ (.error _) | .stored .. | .finished _ => none

/-- The gate that the next section of fetching the models passes. -/
def Fetch.room? : Fetch → Option (Room × Access)
  | .asked => some (.registry, .read)
  | .answered (.ok ids) => if (modelNames ids).isOk then some (.registry, .write) else none
  | .waiting _ | .answered (.error _) | .finished _ => none

/-- The gate that the next section of describing passes. -/
def Describing.room? : Describing → Option (Room × Access)
  | .asked _ | .surveyed .. => some (.registry, .read)
  | .answered _ _ (.ok (some content)) => if content = "" then none else some (.registry, .write)
  | .going _ | .waiting .. | .answered .. | .finished _ => none

/-- The gate that the next section of a task passes. -/
def Stage.room? : Stage → Option (Room × Access)
  | .edit e => if e.change.isVoid then none else some (.registry, .write)
  | .release .. => some (.busy, .write)
  | .inspect i => if i.isVoid then none else some (.registry, .read)
  | .talk g => g.phase.room?
  | .configure _ => some (.registry, .write)
  | .list => some (.registry, .read)
  | .configuring f | .listing f | .fetch f => f.room?
  | .describe d => d.room?
  | .ended _ => none

/-! ### A section changes only what it has passed to -/

namespace Edit

/-- A void edit leaves the registry as it is. -/
theorem apply_of_isVoid {e : Edit} (h : e.change.isVoid = true) (now : Int) (r : Registry Json) :
    (e.apply now r).1 = r := by
  obtain ⟨agent, user, change⟩ := e
  cases change with
  | copy name | rename name | describe text | setModel ref =>
    have hempty := beq_iff_eq.mp h
    subst hempty
    rfl
  | editAt scope indices text =>
    cases indices with
    | nil => rfl
    | cons index indices =>
      have hempty : text = "" := by simpa [Change.isVoid] using h
      subst hempty
      rfl
  | deleteAt scope indices =>
    have hempty := List.isEmpty_iff.mp h
    subst hempty
    rfl
  | _ => cases h

end Edit

variable (env : Surroundings) {w : World}

/-- Looking at a typed registry leaves it as it is. -/
theorem Inspection.registry_run (hr : w.registry.Typed) (i : Inspection) (user : String)
    (textMode : Bool) : (i.run env w user textMode).1.registry = w.registry := by
  rcases (i.shows_run env w user textMode).registry with same | h
  · exact same
  · obtain ⟨agent, scope, indices, k, p, crash, -, hd, hne, heq, -⟩ := h
    have htext : History.Textual (p.history scope user) :=
      fun m hm ↦ ((hr.of_designates hd).history scope user m hm).content
    rw [heq, History.Textual.afterShowing htext, Persona.setHistory_history_of_ne_nil _ _ hne]
    exact Registry.set_of_designates hd

/-- A section of a generation that has not passed the gate to write leaves the registry as it
is. -/
theorem Generation.registry_step_of_room? {g : Generation}
    (h : g.phase.room? ≠ some (.registry, .write)) : (g.step env w).1.registry = w.registry := by
  obtain ⟨t, phase⟩ := g
  cases phase with
  | asked => rfl
  | admitted api =>
    show (occupy w t api).1.registry = w.registry
    unfold occupy
    split <;> rfl
  | occupied api token => exact absurd rfl h
  | rejected token refusal => exact registry_release w t token
  | started ticket => exact registry_ask env w t ticket
  | waiting ticket => rfl
  | answered ticket result =>
    show (release (noteTimeout env w t result) t ticket.token).registry = w.registry
    rw [registry_release, registry_noteTimeout]
  | freed ticket result =>
    cases result with
    | error failure => rfl
    | ok content => exact absurd rfl h
  | stored ticket index content => exact registry_reply env w t ticket index content
  | finished result => rfl

/-- A section of a generation that has not passed the gate to write leaves the busy conversations
as they are. -/
theorem Generation.busy_step_of_room? {g : Generation}
    (h : g.phase.room? ≠ some (.busy, .write)) : (g.step env w).1.busy = w.busy := by
  obtain ⟨t, phase⟩ := g
  cases phase with
  | asked | waiting ticket | finished result => rfl
  | admitted api | rejected token refusal | answered ticket result => exact absurd rfl h
  | occupied api token =>
    show (begin env w t api token).1.busy = w.busy
    rcases begin_cases env w t api token with ⟨crash, -, hb⟩ | ⟨refusal, hb⟩ |
      ⟨k, p, history, -, -, hb⟩
    · rw [hb]
    · rw [hb]
    · rw [hb]
      exact World.busy_commit env w _
  | started ticket => exact busy_ask env w t ticket
  | freed ticket result =>
    cases result with
    | error failure => rfl
    | ok content => exact busy_complete env w t ticket content
  | stored ticket index content => exact busy_reply env w t ticket index content

/-- A section of fetching the models that has not passed the gate to write leaves the registry as
it is. -/
theorem Fetch.registry_step_of_room? {f : Fetch} (h : f.room? ≠ some (.registry, .write)) :
    (f.step env w).1.registry = w.registry := by
  cases f with
  | asked => exact (speaks_ask env w).registry
  | answered result =>
    cases result with
    | error failure => rfl
    | ok ids =>
      cases hn : modelNames ids with
      | error crash => simp [step, hn]
      | ok names => exact absurd (by rw [room?, hn]; rfl) h
  | waiting api => rfl
  | finished result => rfl

/-- A section of describing that has not passed the gate to write leaves the registry as it is. -/
theorem Describing.registry_step_of_room? {d : Describing}
    (h : d.room? ≠ some (.registry, .write)) :
    (d.step env w).1.registry = w.registry := by
  cases d with
  | asked ref => exact (speaks_survey w ref).registry
  | surveyed model targets => rfl
  | going run => exact (speaks_ask env w run).registry
  | waiting run persona request => rfl
  | answered run persona result =>
    rcases result with (refusal | crash) | content
    · rfl
    · rfl
    · cases content with
      | none => rfl
      | some content =>
        by_cases hempty : content = ""
        · subst hempty
          rfl
        · exact absurd (by rw [room?, if_neg hempty]) h
  | finished result => rfl

namespace Task

variable {t : Task}

/-- A section that has not passed the gate to write leaves a typed registry as it is. -/
theorem registry_step_of_room? (hr : w.registry.Typed)
    (h : t.stage.room? ≠ some (.registry, .write)) : (t.step env w).1.registry = w.registry := by
  show (stepStage env w t).1.registry = w.registry
  unfold stepStage
  split
  · next e hs =>
    have hvoid : e.change.isVoid = true := by
      by_contra hnot
      rw [hs, Stage.room?, if_neg hnot] at h
      exact h rfl
    rw [registry_runEdit, Edit.apply_of_isVoid hvoid]
  · rfl
  · next i hs =>
    rw [(speaks_runInspection env w t i).registry]
    exact i.registry_run env hr t.user t.textMode
  · next g hs =>
    rw [hs] at h
    unfold runTalk
    split
    · rfl
    · exact registry_fail w t _
    · exact Generation.registry_step_of_room? env h
  · next hs =>
    rw [hs] at h
    exact absurd rfl h
  · unfold reportConfigured
    split <;> rfl
  · next f _ hs =>
    rw [hs] at h
    exact f.registry_step_of_room? env h
  · split <;> rfl
  · unfold reportListed
    split <;> rfl
  · next f _ hs =>
    rw [hs] at h
    exact f.registry_step_of_room? env h
  · rfl
  · next f _ hs =>
    rw [hs] at h
    exact f.registry_step_of_room? env h
  · unfold reportDescribed
    split
    · rfl
    · exact registry_fail w t _
  · next d _ hs =>
    rw [hs] at h
    exact d.registry_step_of_room? env h
  · rfl

/-- A section that has not passed the gate to write leaves the busy conversations as they are. -/
theorem busy_step_of_room? (h : t.stage.room? ≠ some (.busy, .write)) :
    (t.step env w).1.busy = w.busy := by
  show (stepStage env w t).1.busy = w.busy
  cases hs : t.stage with
  | talk g =>
    rw [hs] at h
    rcases stepStage_of_talk env w t hs with ⟨result, -, -, hb⟩ | hstep
    · exact hb
    · rw [hstep]
      exact Generation.busy_step_of_room? env h
  | release release reply =>
    rw [hs] at h
    exact absurd rfl h
  | _ => exact (stepStage_of_idle env w t (by simp [hs]) (by simp [hs])).2

end Task

/-! ### Sections behind gates -/

namespace Gate

variable {ι : Type} [DecidableEq ι]

/-- Come to the gate and go inside, unless one would have to wait. -/
def pass? (g : Gate ι) (who : ι) (access : Access) : Option (Gate ι) :=
  let g := g.enter who access
  if Keyed.get? who g.stands = some (.inside access) then some g else none

/-- Whoever comes to a gate where nobody is goes inside, and leaves it as it was. -/
theorem pass?_empty (who : ι) (access : Access) :
    ∃ g, (empty : Gate ι).pass? who access = some g ∧ g.leave who = empty := by
  cases access with
  | read =>
    refine ⟨⟨1, false, 0, [(who, .inside .read)]⟩, ?_, ?_⟩
    · simp [pass?, enter, attempt, admits, empty, Keyed.put, Keyed.get?]
    · simp [leave, wakeAll, empty, Keyed.get?, Keyed.erase]
  | write =>
    refine ⟨⟨0, true, 0, [(who, .inside .write)]⟩, ?_, ?_⟩
    · simp [pass?, enter, attempt, admits, empty, Keyed.put, Keyed.get?]
    · simp [leave, wakeAll, empty, Keyed.get?, Keyed.erase]

end Gate

/-- The gates of a service. -/
structure Gates (ι : Type) where
  /-- The gate before the registry. -/
  registry : Gate ι
  /-- The gate before the busy conversations. -/
  busy : Gate ι

namespace Gates

variable {ι : Type}

/-- Nobody has come to either gate. -/
def free : Gates ι := ⟨.empty, .empty⟩

/-- The gate before what is meant. -/
def before (g : Gates ι) : Room → Gate ι
  | .registry => g.registry
  | .busy => g.busy

/-- The gates after something has happened at one of them. -/
def set (g : Gates ι) (room : Room) (gate : Gate ι) : Gates ι :=
  match room with
  | .registry => { g with registry := gate }
  | .busy => { g with busy := gate }

/-- Both gates are empty when nobody has come. -/
@[simp] theorem before_free (room : Room) : (free : Gates ι).before room = .empty := by
  cases room <;> rfl

/-- Emptying a gate leaves both empty when nobody has come. -/
@[simp] theorem set_free (room : Room) : (free : Gates ι).set room .empty = free := by
  cases room <;> rfl

end Gates

namespace Task

variable {ι : Type} [DecidableEq ι] (who : ι)

/-- Carry out the next section behind the gate that it passes, and leave the gate whatever has come
of the section. A section that would have to wait is not carried out. -/
def stepBehind (g : Gates ι) (w : World) (t : Task) : Option (Gates ι × World × Task) :=
  match t.stage.room? with
  | none => some (g, t.step env w)
  | some (room, access) =>
    ((g.before room).pass? who access).map fun inside ↦
      (g.set room (inside.leave who), t.step env w)

/-- Let a task proceed as without gates, with each section behind its gate. -/
def proceedBehind : Nat → Gates ι → World → Task → Option (Gates ι × World × Task)
  | 0, g, w, t => some (g, w, t)
  | steps + 1, g, w, t =>
    if t.query?.isSome || t.ending?.isSome then some (g, w, t)
    else (t.stepBehind env who g w).bind fun (g, w, t) ↦ proceedBehind steps g w t

/-- Let a task run to its end as without gates, for at most the given number of questions, with
each section behind its gate. -/
def converseBehind (fallback : Query → Answer) :
    Nat → List (Query → Answer) → Gates ι → World → Task → Option (Gates ι × World × Task)
  | 0, _, g, w, t => some (g, w, t)
  | questions + 1, replies, g, w, t =>
    match t.query? with
    | none => some (g, w, t)
    | some query =>
      let t := t.answer (replies.headD fallback query)
      (t.proceedBehind env who (t.enough w) g w).bind fun (g, w, t) ↦
        converseBehind fallback questions replies.tail g w t

/-- Let a task run to its end with the provider following a script, with each section behind its
gate. -/
def runBehind (script : Script) (g : Gates ι) (w : World) (t : Task) :
    Option (Gates ι × World × Task) :=
  (t.proceedBehind env who (t.enough w) g w).bind fun (g, w, t) ↦
    converseBehind env who script.fallback (w.registry.agents.length + t.remaining + 2)
      script.replies g w t

/-- A section that finds the gates free does not wait, and leaves them free. -/
theorem stepBehind_free (w : World) (t : Task) :
    t.stepBehind env who .free w = some (.free, t.step env w) := by
  unfold stepBehind
  split
  · rfl
  · next room access _ =>
    obtain ⟨inside, hpass, hleave⟩ := Gate.pass?_empty who access
    simp [hpass, hleave]

private theorem proceedBehind_free (steps : Nat) (w : World) (t : Task) :
    t.proceedBehind env who steps .free w = some (.free, t.proceed env steps w) := by
  induction steps generalizing w t with
  | zero => rfl
  | succ steps ih =>
    unfold proceedBehind proceed
    split
    · rfl
    · rw [stepBehind_free]
      exact ih _ _

private theorem converseBehind_free (fallback : Query → Answer) (questions : Nat)
    (replies : List (Query → Answer)) (w : World) (t : Task) :
    converseBehind env who fallback questions replies .free w t =
      some (.free, converse env fallback questions replies w t) := by
  induction questions generalizing replies w t with
  | zero => rfl
  | succ questions ih =>
    unfold converseBehind converse
    cases t.query? with
    | none => rfl
    | some query =>
      dsimp only
      rw [proceedBehind_free]
      exact ih _ _ _

/-- A task that runs alone never waits at a gate, and leaves both free, however it ends. -/
theorem runBehind_free (script : Script) (w : World) (t : Task) :
    t.runBehind env who script .free w = some (.free, t.run env script w) := by
  unfold runBehind
  rw [proceedBehind_free]
  exact converseBehind_free env who _ _ _ _ _

end Task
end PersonaChat
