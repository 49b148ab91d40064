import PersonaChat.Proofs.Registry.Settled

/-!
# Snapshots are read back

A registry of texts is written as a document that the reader of documents understands, and the
document is read back as the registry it was written from: the defaults for empty fields agree with
the empty fields, so that only an empty role, an empty default model and an empty default prompt
would change.
-/

namespace PersonaChat

open Number

/-! ### Messages and histories -/

/-- A message that a document can hold: its role is not empty and its time not too long. -/
structure Message.Storable (m : Message String) : Prop where
  role : m.role ≠ ""
  timestamp : m.timestamp.natAbs < 10 ^ digitLimit

namespace Message

variable {m : Message String}

/-- A message of texts is settled. -/
theorem Storable.settled (h : m.Storable) : (m.map .str).Settled where
  role := Json.settled_str_of_ne h.role _
  content := Json.settled_str _

/-- A message is written as a document of depth two. -/
theorem Storable.writable (h : m.Storable) (depth : Nat) :
    Json.Writable (depth + 2) (toJson (m.map .str)) :=
  writable_toJson .str .str (List.forall_mem_map.mpr fun _ _ ↦ .str) h.timestamp

end Message

namespace History

variable {h : History String}

/-- The messages of a history of texts are settled. -/
theorem settled_of_storable (hs : ∀ m ∈ h, m.Storable) : ∀ m ∈ h.map (·.map .str), m.Settled :=
  List.forall_mem_map.mpr fun m hm ↦ (hs m hm).settled

/-- A history is written as a document of depth three. -/
theorem writable_toJson (hs : ∀ m ∈ h, m.Storable) (depth : Nat) :
    Json.Writable (depth + 3) (toJson (h.map (·.map .str))) := by
  refine .arr (List.forall_mem_map.mpr (List.forall_mem_map.mpr fun m hm ↦ ?_))
  exact (hs m hm).writable depth

end History

/-! ### Personas -/

/-- A persona that a document can hold: so are its messages, its numbers are not too long, and each
user has one private history. -/
structure Persona.Storable (p : Persona String) : Prop where
  shared : ∀ m ∈ p.publicHistory, m.Storable
  personal : ∀ entry ∈ p.privateHistories, ∀ m ∈ entry.2, m.Storable
  distinct : (Keyed.keys p.privateHistories).Nodup
  version : p.version.natAbs < 10 ^ digitLimit
  createdAt : p.createdAt.natAbs < 10 ^ digitLimit

namespace Persona

variable {p : Persona String}

/-- A persona of texts is settled. -/
theorem Storable.settled (h : p.Storable) : (p.map .str).Settled where
  description := Json.settled_str _
  model := Json.settled_str _
  systemPrompt := Json.settled_str _
  shared := History.settled_of_storable h.shared
  personal := List.forall_mem_map.mpr fun entry hentry ↦
    History.settled_of_storable (h.personal entry hentry)

/-- A persona is written as a document of depth five. -/
theorem Storable.writable (h : p.Storable) (depth : Nat) :
    Json.Writable (depth + 5) (toJson (p.map .str)) := by
  refine writable_toJson .str .str .str .str (History.writable_toJson h.shared (depth + 1)) ?_
    h.version h.createdAt
  refine .obj ?_ ?_
  · simpa [map, Function.comp_def, Keyed.keys] using h.distinct
  · refine List.forall_mem_map.mpr (List.forall_mem_map.mpr fun entry hentry ↦ ?_)
    exact History.writable_toJson (h.personal entry hentry) depth

end Persona

/-! ### Registries -/

/-- A registry that a document can hold: so are its personas, and neither the default model nor the
default prompt is empty. -/
structure Registry.Storable (r : Registry String) : Prop where
  agents : ∀ p ∈ r.agents, p.Storable
  defaultModel : r.defaultModel ≠ ""
  defaultPrompt : r.defaultPrompt ≠ ""

namespace Registry

variable {r : Registry String}

/-- A registry of storable personas is settled. -/
theorem settled_snapshot (h : ∀ p ∈ r.agents, p.Storable) : r.snapshot.Settled where
  apiBase := Json.settled_str _
  apiKey := Json.settled_str _
  agents := List.forall_mem_map.mpr fun p hp ↦ (h p hp).settled
  defaultModel := Json.settled_str _
  defaultPrompt := Json.settled_str _

/-- A registry of storable personas is written as a document that its reader understands. -/
theorem writable (h : ∀ p ∈ r.agents, p.Storable) :
    Json.Writable Json.maxDepth r.snapshot.toJson :=
  writable_toJson .str .str (List.forall_mem_map.mpr fun _ _ ↦ .str)
    (List.forall_mem_map.mpr fun p hp ↦ (h p hp).writable 978) .str .str

/-- Neither default of a storable registry is taken from another registry. -/
theorem Storable.withDefaults (h : r.Storable) (default : Snapshot) :
    r.snapshot.withDefaults default = r.snapshot := by
  have hmodel : r.snapshot.defaultModel.isFilled = true := by
    simpa [snapshot, map, Json.isFilled] using h.defaultModel
  have hprompt : r.snapshot.defaultPrompt.isFilled = true := by
    simpa [snapshot, map, Json.isFilled] using h.defaultPrompt
  rw [Registry.withDefaults, if_pos hmodel, if_pos hprompt]

end Registry

end PersonaChat
