import PersonaChat.Desk.Session
import PersonaChat.Proofs.Desk.Floor
import PersonaChat.Proofs.Store.Saving

/-!
# Starting anew

A service that is started over a disk finds the registry that was last saved there, text for text
and in the same order.

Spec guidance: `SPEC_FULL.md`, lines 190–196.
-/

namespace PersonaChat

/-- A world that is loaded from what was saved has the registry that was saved, with empty defaults
taken from the registry of a world that finds none. -/
theorem World.load_saved {env : Surroundings} {d d' : Disk} {r : Registry String}
    (h : ∀ p ∈ r.agents, p.Storable) {serial : Nat} {trouble : Option SaveTrouble}
    (hs : env.vault.save d (Vault.encode r.snapshot) serial trouble = (d', .ok ()))
    (default : Registry Json) {w : World} (hw : w.disk = d') :
    w.load env default = .ok { w with
      registry := r.snapshot.withDefaults default, busy := .empty, accepting := true } := by
  rw [load, hw, Vault.load_saved h hs]
  simp only [bind, Except.bind, Option.getD_some, List.append_nil, ← hw]
  rfl

/-- A world that is loaded from what was saved has the registry that was saved. -/
theorem World.load_of_save {env : Surroundings} {d d' : Disk} {r : Registry String}
    (h : r.Storable)
    {serial : Nat} {trouble : Option SaveTrouble}
    (hs : env.vault.save d (Vault.encode r.snapshot) serial trouble = (d', .ok ()))
    (default : Registry Json) {w : World} (hw : w.disk = d') :
    w.load env default =
      .ok { w with registry := r.snapshot, busy := .empty, accepting := true } := by
  rw [load_saved h.agents hs default hw, h.withDefaults]

namespace Session

variable {env : Surroundings} {default r : Registry Json} {d : Disk}

/-- A service that is started over a disk from which a registry is loaded has that registry. -/
theorem start_of_load (hload : ∀ w : World, w.disk = d → w.load env default =
      .ok { w with registry := r, busy := .empty, accepting := true })
    (ownsWorkers : Bool) (seconds : Int) :
    ∃ s, start env default ownsWorkers d seconds = .ok s ∧ s.world.registry = r := by
  let empty : World := ⟨default, .empty, true, d, 0, [], Calendar.clockSeconds seconds, [], []⟩
  rw [start, hload empty rfl]
  exact ⟨_, rfl, rfl⟩

/-- So has one that is started anew, whatever it had in memory. -/
theorem restart_of_load {s : Session} (hload : ∀ w : World, w.disk = d → w.load s.env s.default =
      .ok { w with registry := r, busy := .empty, accepting := true }) (hd : s.world.disk = d) :
    ∃ s', s.restart = .ok s' ∧ s'.world.registry = r := by
  rw [restart, hload s.world hd]
  exact ⟨_, rfl, rfl⟩

/-- Once a registry is saved its text stands in the file, and loading gives the registry back
whatever the registry is with which a service starts that finds none. So a service that is started
over the disk, for the first time or anew, has the registry that was saved. -/
theorem starts_with_saved_registry (v : Vault) (d d' : Disk) (r : Registry String) (serial : Nat)
    (trouble : Option SaveTrouble) (storable : r.Storable)
    (saved : v.save d (Vault.encode r.snapshot) serial trouble = (d', .ok ())) :
    d'.look v.path = .ok (.file (Text.encode r.snapshot.toJson.indentedText)) ∧
    (∀ default now, v.load d' default now = .ok (d', some r.snapshot, [])) ∧
    (∀ env default ownsWorkers seconds, env.vault = v →
      ∃ s, start env default ownsWorkers d' seconds = .ok s ∧ s.world.registry = r.snapshot) ∧
    ∀ s : Session, s.env.vault = v → s.world.disk = d' →
      ∃ s', s.restart = .ok s' ∧ s'.world.registry = r.snapshot := by
  refine ⟨Vault.look_of_save saved, Vault.load_of_save storable saved, ?_, ?_⟩
  · rintro env default ownsWorkers seconds rfl
    exact start_of_load (fun _ ↦ World.load_of_save storable saved default) ownsWorkers seconds
  · rintro s rfl hd
    exact restart_of_load (fun _ ↦ World.load_of_save storable saved s.default) hd

/-- A registry with quotes, control characters and a line separator in its texts, an empty private
history and a negative time is saved over a disk without files and found again. -/
theorem starts_with_saved_registry_of_odd_texts :
    let message : Message String := ⟨"user", "a\\\"\x01\n\u2028", ["", "http://host/picture"], -3⟩
    let bot : Persona String :=
      ⟨"Bot", "", "model", "\x7f", [message], [("v", []), ("u", [message])], 2, 5⟩
    let r : Registry String := ⟨"", "key", ["b", "a", "b"], [bot], "model", "prompt"⟩
    ∃ d' s, Surroundings.plain.vault.save [] (Vault.encode r.snapshot) 0 none = (d', .ok ()) ∧
      start .plain World.withBot.registry true d' 0 = .ok s ∧ s.world.registry = r.snapshot := by
  intro message bot r
  have hmessage : message.Storable := ⟨by decide, by decide +kernel⟩
  have hbot : bot.Storable := by
    refine ⟨by simpa [bot] using hmessage, ?_, by decide, by decide +kernel, by decide +kernel⟩
    intro entry hentry m hm
    simp only [bot, List.mem_cons, List.not_mem_nil, or_false] at hentry
    rcases hentry with rfl | rfl
    · cases hm
    · rw [List.mem_singleton.mp hm]
      exact hmessage
  have hr : r.Storable := ⟨by simpa [r] using hbot, by decide, by decide⟩
  obtain ⟨d', saved⟩ : ∃ d',
      Surroundings.plain.vault.save [] (Vault.encode r.snapshot) 0 none = (d', .ok ()) := ⟨_, rfl⟩
  obtain ⟨-, -, hstart, -⟩ := starts_with_saved_registry _ [] d' r 0 none hr saved
  obtain ⟨s, hs, hregistry⟩ := hstart .plain World.withBot.registry true 0 rfl
  exact ⟨d', s, saved, hs, hregistry⟩

end Session
end PersonaChat
