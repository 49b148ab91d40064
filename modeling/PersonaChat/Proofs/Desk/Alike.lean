import PersonaChat.Desk.World
import PersonaChat.Proofs.Registry.Seen
import PersonaChat.Proofs.Store.Shape

/-!
# Worlds that are alike

Two worlds are alike when nothing distinguishes them but what a viewer does not see of the
registry, the records, and the disk in some respect that saving and exporting keep. Whatever a
command does to the world in one step does the same to both: they are alike again, and the result
of the step is the same.

Two worlds look the same to a user when they differ in the private histories of others, the
records, and the bytes of files only. This is one way to be alike.
-/

namespace PersonaChat

/-- A way in which worlds may be alike: who is shown the registry, and how the disks and the
troubles that befall the next saves compare. Whatever is saved and what is exported comes out
alike. -/
structure Likeness (env : Surroundings) where
  /-- Who is shown the registry. -/
  viewer : Option String
  /-- How disks, with the troubles of the next saves, compare. -/
  Stored : Disk → List (Option SaveTrouble) → Disk → List (Option SaveTrouble) → Prop
  /-- The names of files that are exported alike. -/
  Exported : String → Prop
  /-- Saving keeps the comparison, whatever is saved. -/
  save : ∀ {d d' : Disk} {troubles troubles' : List (Option SaveTrouble)},
    Stored d troubles d' troubles' → ∀ (text text' : String) (serial : Nat),
      Stored (env.vault.save d text serial (troubles.headD none)).1 troubles.tail
        (env.vault.save d' text' serial (troubles'.headD none)).1 troubles'.tail
  /-- The folder of exported files is created alike. -/
  folder : ∀ {d d' : Disk} {troubles troubles' : List (Option SaveTrouble)},
    Stored d troubles d' troubles' → ∀ {name : String}, Exported name →
      Disk.ComeOutAlike (fun e e' ↦ Stored e troubles e' troubles')
        (d.ensureFolder env.exportFolder)
        (d'.ensureFolder env.exportFolder)
  /-- Exported files are written alike. -/
  file : ∀ {d d' : Disk} {troubles troubles' : List (Option SaveTrouble)},
    Stored d troubles d' troubles' → ∀ {name : String}, Exported name → ∀ bytes : List UInt8,
      Disk.ComeOutAlike (fun e e' ↦ Stored e troubles e' troubles')
        (d.write (env.exportFolder ++ Path.ofString name) bytes)
        (d'.write (env.exportFolder ++ Path.ofString name) bytes)

namespace World

/-- Worlds that are alike. -/
structure Like {env : Surroundings} (l : Likeness env) (w w' : World) : Prop where
  /-- The registries look the same to the viewer. -/
  registry : w.registry.shownTo l.viewer = w'.registry.shownTo l.viewer
  /-- The same conversations are busy. -/
  busy : w.busy = w'.busy
  /-- Both or none can be talked to. -/
  accepting : w.accepting = w'.accepting
  /-- The disks and the troubles ahead compare. -/
  stored : l.Stored w.disk w.troubles w'.disk w'.troubles
  /-- Saves are numbered in the same way. -/
  serial : w.serial = w'.serial
  /-- It is the same time. -/
  now : w.now = w'.now
  /-- The same has left the service. -/
  events : w.events = w'.events

variable {env : Surroundings} {l : Likeness env} {w w' : World}

/-- Steps that come out alike: worlds that are alike, and one result. -/
structure LikeWith {α : Type} (l : Likeness env) (x x' : World × α) : Prop where
  /-- The worlds are alike. -/
  world : Like l x.1 x'.1
  /-- The results are the same. -/
  result : x.2 = x'.2

/-- What is done with the results of alike worlds keeps them alike. -/
theorem LikeWith.map {α β : Type} {x x' : World × α} (h : LikeWith l x x') (f : α → β) :
    LikeWith l (x.1, f x.2) (x'.1, f x'.2) :=
  ⟨h.world, congrArg f h.result⟩

/-- Alike results hold the same value, in alike worlds. -/
theorem LikeWith.cases {α : Type} {x x' : World × α} (h : LikeWith l x x') :
    ∃ w w' a, x = (w, a) ∧ x' = (w', a) ∧ Like l w w' :=
  ⟨x.1, x'.1, x.2, rfl, by rw [h.result], h.world⟩

namespace Like

/-- A result that does not depend on the world. -/
theorem returning {α : Type} (h : Like l w w') (a : α) : LikeWith l (w, a) (w', a) := ⟨h, rfl⟩

/-- Alike worlds have the same models. -/
theorem models (h : Like l w w') : w.registry.models = w'.registry.models :=
  Registry.models_eq_of_shownTo h.registry

/-- Alike worlds have the same provider. -/
theorem api (h : Like l w w') : w.registry.api = w'.registry.api :=
  Registry.api_eq_of_shownTo h.registry

/-- Alike worlds have the same names. -/
theorem names (h : Like l w w') : w.registry.names = w'.registry.names :=
  Registry.names_eq_of_shownTo h.registry

/-- Alike worlds have as many personas. -/
theorem length_agents (h : Like l w w') : w.registry.agents.length = w'.registry.agents.length :=
  Registry.length_agents_of_shownTo h.registry

/-- Alike worlds have personas, or none, together. -/
theorem isEmpty_agents (h : Like l w w') :
    w.registry.agents.isEmpty = w'.registry.agents.isEmpty := by
  rw [Bool.eq_iff_iff, List.isEmpty_iff_length_eq_zero, List.isEmpty_iff_length_eq_zero,
    h.length_agents]

/-- Sending the same keeps worlds alike. -/
theorem emit (h : Like l w w') (e : Event) : Like l (w.emit e) (w'.emit e) :=
  { h with events := congrArg (· ++ [e]) h.events }

/-- Saying the same keeps worlds alike. -/
theorem say (h : Like l w w') (text : String) : Like l (w.say text) (w'.say text) :=
  h.emit (.text (.str text))

/-- Records may differ. -/
theorem withLogs (h : Like l w w') (log log' : List LogRecord) :
    Like l { w with log := log } { w' with log := log' } :=
  { h with }

/-- Records keep worlds alike, whatever they hold. -/
theorem note (h : Like l w w') (level level' : LogLevel) (message message' : String)
    (fields fields' : List (String × Json)) :
    Like l (w.note level message fields) (w'.note level' message' fields') :=
  h.withLogs _ _

/-- Worlds stay alike with registries that look the same. -/
theorem withRegistry (h : Like l w w') {r r' : Registry Json}
    (hr : r.shownTo l.viewer = r'.shownTo l.viewer) :
    Like l { w with registry := r } { w' with registry := r' } :=
  { h with registry := hr }

/-- Worlds stay alike with the same busy conversations. -/
theorem withBusy (h : Like l w w') (busy : Occupancy) :
    Like l { w with busy := busy } { w' with busy := busy } :=
  { h with busy := rfl }

/-- Worlds stay alike at the same time. -/
theorem withNow (h : Like l w w') (now : Int) :
    Like l { w with now := now } { w' with now := now } :=
  { h with now := rfl }

/-- Worlds stay alike while they take further conversations or not. -/
theorem withAccepting (h : Like l w w') (accepting : Bool) :
    Like l { w with accepting := accepting } { w' with accepting := accepting } :=
  { h with accepting := rfl }

/-- Worlds stay alike with disks that are alike. -/
theorem withDisk (h : Like l w w') {d d' : Disk} (hd : l.Stored d w.troubles d' w'.troubles) :
    Like l { w with disk := d } { w' with disk := d' } :=
  { h with stored := hd }

/-- What is saved may differ, and so may whether the saves fail. -/
theorem save (h : Like l w w') : Like l (w.save env) (w'.save env) := by
  have hstored := l.save h.stored (Vault.encode w.registry) (Vault.encode w'.registry) w'.serial
  unfold World.save
  rw [h.serial]
  generalize env.vault.save w.disk (Vault.encode w.registry) w'.serial (w.troubles.headD none) = x
    at hstored ⊢
  generalize env.vault.save w'.disk (Vault.encode w'.registry) w'.serial (w'.troubles.headD none) =
    x'
    at hstored ⊢
  obtain ⟨d, result⟩ := x
  obtain ⟨d', result'⟩ := x'
  have hsaved (log log' : List LogRecord) : Like l
      ⟨w.registry, w.busy, w.accepting, d, w'.serial + 1, w.troubles.tail, w.now, w.events, log⟩
      ⟨w'.registry, w'.busy, w'.accepting, d', w'.serial + 1, w'.troubles.tail, w'.now, w'.events,
        log'⟩ :=
    ⟨h.registry, h.busy, h.accepting, hstored, rfl, h.now, h.events⟩
  cases result with
  | ok _ =>
    cases result' with
    | ok _ => exact hsaved _ _
    | error _ => exact hsaved _ _
  | error _ =>
    cases result' with
    | ok _ => exact hsaved _ _
    | error _ => exact hsaved _ _

/-- Committing registries that look the same keeps worlds alike. -/
theorem commit (h : Like l w w') {r r' : Registry Json}
    (hr : r.shownTo l.viewer = r'.shownTo l.viewer) : Like l (w.commit env r) (w'.commit env r') :=
  (h.withRegistry hr).save

/-- Showing the same keeps worlds alike. -/
theorem present (h : Like l w w') (text : String) (textMode : Bool) (title : String) :
    Like l (w.present env text textMode title) (w'.present env text textMode title) := by
  unfold World.present
  split
  · exact h.say text
  · exact h.say text
  · next draw _ =>
    dsimp only
    split
    · exact (h.emit _).emit _
    · exact ((h.emit _).note _ _ _ _ _ _).say _

private theorem sendImage (h : Like l w w') (url : String) :
    Like l (w.sendImage url) (w'.sendImage url) := by
  unfold World.sendImage
  split
  · split
    · exact h.emit _
    · exact h
  · exact h.emit _

/-- Sending the same pictures one by one keeps worlds alike. -/
theorem foldl_sendImage (h : Like l w w') (urls : List String) :
    Like l (urls.foldl World.sendImage w) (urls.foldl World.sendImage w') := by
  induction urls generalizing w w' with
  | nil => exact h
  | cons url urls ih => exact ih (h.sendImage url)

/-- Sending the same pictures comes out alike. -/
theorem sendImages (h : Like l w w') (urls : List Json) :
    LikeWith l (w.sendImages urls) (w'.sendImages urls) := by
  induction urls generalizing w w' with
  | nil => exact h.returning _
  | cons url urls ih =>
    unfold World.sendImages
    split
    · exact ih (h.sendImage _)
    · exact h.returning _

/-- Sending the same videos keeps worlds alike. -/
theorem sendVideos (h : Like l w w') (urls : List String) :
    Like l (w.sendVideos urls) (w'.sendVideos urls) := by
  unfold World.sendVideos
  induction urls generalizing w w' with
  | nil => exact h
  | cons url urls ih => exact ih (h.emit _)

/-- Putting the same question comes out alike. -/
theorem ask (h : Like l w w') (query : Query) :
    LikeWith l (w.ask env query) (w'.ask env query) := by
  unfold World.ask
  split
  · exact (h.emit _).returning _
  · split
    · exact (h.emit _).returning _
    · exact h.returning _

end Like

/-! ### What a user sees -/

/-- Worlds that look the same to a user. -/
structure Alike (v : String) (w w' : World) : Prop where
  /-- The registries differ in the private histories of others only. -/
  registry : w.registry.seenBy v = w'.registry.seenBy v
  /-- The same conversations are busy. -/
  busy : w.busy = w'.busy
  /-- Both or none can be talked to. -/
  accepting : w.accepting = w'.accepting
  /-- The same files and folders stand at the same places. -/
  disk : w.disk.shape = w'.disk.shape
  /-- Saves are numbered in the same way. -/
  serial : w.serial = w'.serial
  /-- Saves meet the same troubles. -/
  troubles : w.troubles = w'.troubles
  /-- It is the same time. -/
  now : w.now = w'.now
  /-- The same has left the service. -/
  events : w.events = w'.events

end World

/-- What a user sees, on disks of the same shape that meet the same troubles. Whether something can
be saved or exported does not depend on what files hold. -/
def Likeness.ofUser (env : Surroundings) (v : String) : Likeness env where
  viewer := some v
  Stored := fun d troubles d' troubles' ↦ d.shape = d'.shape ∧ troubles = troubles'
  Exported := fun _ ↦ True
  save := by
    rintro d d' troubles _ ⟨hd, rfl⟩ text text' serial
    exact ⟨(env.vault.save_alike hd text text' serial _).1, rfl⟩
  folder := by
    rintro d d' troubles _ ⟨hd, rfl⟩ name -
    obtain ⟨failure, h, h'⟩ | ⟨e, e', h, h', he⟩ :=
      Disk.alike_cases (Disk.ensureFolder_alike env.exportFolder hd)
    · exact .inl ⟨failure, h, h'⟩
    · exact .inr ⟨e, e', h, h', he, rfl⟩
  file := by
    rintro d d' troubles _ ⟨hd, rfl⟩ name - bytes
    obtain ⟨fault, h, h'⟩ | ⟨e, e', h, h', he⟩ :=
      Disk.alike_cases (Disk.write_alike (env.exportFolder ++ Path.ofString name) hd bytes bytes)
    · exact .inl ⟨fault, h, h'⟩
    · exact .inr ⟨e, e', h, h', he, rfl⟩

/-- To look the same to a user is to be alike for this user. -/
theorem World.alike_iff_like (env : Surroundings) {v : String} {w w' : World} :
    w.Alike v w' ↔ w.Like (.ofUser env v) w' :=
  ⟨fun h ↦ ⟨h.registry, h.busy, h.accepting, ⟨h.disk, h.troubles⟩, h.serial, h.now, h.events⟩,
    fun h ↦ ⟨h.registry, h.busy, h.accepting, h.stored.1, h.serial, h.stored.2, h.now, h.events⟩⟩

end PersonaChat
