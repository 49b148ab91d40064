import PersonaChat.Proofs.Json.RoundTrip
import PersonaChat.Proofs.Persona
import PersonaChat.Proofs.Results
import PersonaChat.Registry.Snapshot

/-!
# What is read once is read again

Reading a snapshot puts each field in order: what is missing or empty becomes the default, a list
is a list and a number a number, and values that stand for texts are left alone. What was read is
therefore settled: it is written as a document that is read as the same registry. Nor is the
document that is written harder to write than the one that was read, so long as the latter is as
deep as every snapshot.

Main statements: `Registry.Settled.ofJson_toJson`, `Registry.ReadsAs.settled` and
`Registry.ReadsAs.writable_withDefaults`.
-/

namespace PersonaChat

open Number

namespace Json

/-! ### Fields of an object -/

/-- The value is filled in, or it is the default. -/
def Settled (default j : Json) : Prop := j.isFilled = true ∨ j = default

variable {j value : Json} {key : String} {depth : Nat}

/-- A text has no other default than the empty text. -/
theorem settled_str (s : String) : Settled (.str "") (.str s) := by
  by_cases hs : s = ""
  · exact .inr (by rw [hs])
  · exact .inl (by simpa [isFilled] using hs)

/-- A text that is not empty is settled, whatever the default. -/
theorem settled_str_of_ne {s : String} (hs : s ≠ "") (default : Json) : Settled default (.str s) :=
  .inl (by simpa [isFilled] using hs)

/-- What is read from a field is settled. -/
theorem settled_fieldOr (j : Json) (key : String) (default : Json) :
    Settled default (j.fieldOr key default) := by
  unfold fieldOr filled?
  cases hvalue : (j.field? key).filter isFilled with
  | none => exact .inr rfl
  | some value => exact .inl (Option.filter_eq_some_iff.mp hvalue).2

/-- A settled value is read from its field. -/
theorem fieldOr_of_settled {default : Json} (h : j.field? key = some value)
    (hs : Settled default value) : j.fieldOr key default = value := by
  rw [fieldOr, filled?, h, Option.filter_some]
  split
  · rfl
  · next hempty =>
    rcases hs with hfilled | rfl
    · exact absurd hfilled hempty
    · rfl

/-- A list is read from its field, also when it is empty. -/
theorem fieldElements_arr {items : List Json} (h : j.field? key = some (.arr items)) :
    j.fieldElements key = .ok items := by
  rw [fieldElements, filled?, h]
  cases items with
  | nil => rfl
  | cons item items => rfl

/-- An integer is read from its field, also when it is zero. -/
theorem fieldInt_int {n : Int} (h : j.field? key = some (.int n)) : j.fieldInt key = .ok n := by
  rw [fieldInt, filled?, h]
  by_cases hn : n = 0
  · rw [hn]
    rfl
  · rw [Option.filter_some, if_pos (by simpa [isFilled] using hn)]
    rfl

/-! ### What can be written of a document -/

/-- The value of a field is one level less deep than its object. -/
theorem Writable.of_field? (hj : Writable (depth + 1) j) (h : j.field? key = some value) :
    Writable depth value := by
  cases hj with
  | obj _ inner => exact inner _ (Keyed.mem_of_get? h)
  | null => cases h
  | bool => cases h
  | int _ => cases h
  | str => cases h
  | arr _ => cases h

private theorem Writable.of_filled? (hj : Writable (depth + 1) j)
    (h : j.filled? key = some value) :
    Writable depth value :=
  hj.of_field? (Option.filter_eq_some_iff.mp h).1

private theorem Writable.fieldOr (hj : Writable (depth + 1) j) (key s : String) :
    Writable depth (j.fieldOr key (.str s)) := by
  unfold Json.fieldOr
  cases hvalue : j.filled? key with
  | none => exact .str
  | some value => exact hj.of_filled? hvalue

private theorem Writable.elements (hj : Writable (depth + 1) j) {items : List Json}
    (h : j.elements = .ok items) : ∀ item ∈ items, Writable depth item := by
  cases hj with
  | arr inner =>
    cases h
    exact inner
  | obj _ _ =>
    cases h
    exact List.forall_mem_map.mpr fun _ _ ↦ .str
  | str =>
    cases h
    exact List.forall_mem_map.mpr fun _ _ ↦ .str
  | null => cases h
  | bool => cases h
  | int _ => cases h

private theorem Writable.fieldElements (hj : Writable (depth + 2) j) {items : List Json}
    (h : j.fieldElements key = .ok items) : ∀ item ∈ items, Writable depth item := by
  unfold Json.fieldElements at h
  split at h
  · next value hvalue => exact (hj.of_filled? hvalue).elements h
  · cases h
    exact nofun

/-- An integer that is read from a value which can be written can be written. -/
theorem Writable.natAbs_toInt_lt (hj : Writable depth j) {n : Int} (h : j.toInt = .ok n) :
    n.natAbs < 10 ^ digitLimit := by
  cases hj with
  | int short =>
    cases h
    exact short
  | @bool _ b =>
    cases h
    have hbit : (if b then 1 else 0 : Int).natAbs ≤ 1 := by cases b <;> decide
    exact Nat.lt_of_le_of_lt hbit (Nat.one_lt_pow (by decide) (by decide))
  | str =>
    rw [toInt] at h
    split at h
    · next hread =>
      cases h
      exact natAbs_lt_of_readInt? hread
    · cases h
  | null => cases h
  | arr _ => cases h
  | obj _ _ => cases h

private theorem Writable.natAbs_fieldInt_lt (hj : Writable (depth + 1) j) {n : Int}
    (h : j.fieldInt key = .ok n) : n.natAbs < 10 ^ digitLimit := by
  unfold fieldInt at h
  split at h
  · next value hvalue => exact (hj.of_filled? hvalue).natAbs_toInt_lt h
  · cases h
    exact Nat.pow_pos (by decide)

end Json

/-! ### Messages and histories -/

namespace Message

/-- The document is read as the message. -/
structure ReadsAs (j : Json) (m : Message Json) : Prop where
  object : j.isObject = true
  role : m.role = j.fieldOr "role" (.str userRole)
  content : m.content = j.fieldOr "content" (.str "")
  images : j.fieldElements "images" = .ok m.images
  timestamp : j.fieldInt "timestamp" = .ok m.timestamp

/-- The role and the text are settled. -/
structure Settled (m : Message Json) : Prop where
  role : Json.Settled (.str userRole) m.role
  content : Json.Settled (.str "") m.content

variable {j : Json} {m : Message Json} {depth : Nat}

private theorem ofJson_eq_ok_iff : ofJson j = .ok m ↔ ReadsAs j m := by
  constructor
  · intro h
    unfold ofJson at h
    split at h
    · cases h
    · next hobject =>
      obtain ⟨images, himages, h⟩ := bind_eq_ok h
      obtain ⟨timestamp, htime, h⟩ := bind_eq_ok h
      cases h
      exact ⟨by simpa using hobject, rfl, rfl, himages, htime⟩
  · intro h
    rw [ofJson, h.object, h.images, h.timestamp]
    simp only [bind, Except.bind, ← h.role, ← h.content]
    rfl

/-- A message that was read is settled. -/
theorem ReadsAs.settled (h : ReadsAs j m) : m.Settled where
  role := h.role ▸ Json.settled_fieldOr ..
  content := h.content ▸ Json.settled_fieldOr ..

/-- A settled message is read back. -/
theorem Settled.ofJson_toJson (h : m.Settled) : ofJson m.toJson = .ok m :=
  ofJson_eq_ok_iff.mpr {
    object := rfl
    role := (Json.fieldOr_of_settled rfl h.role).symm
    content := (Json.fieldOr_of_settled rfl h.content).symm
    images := Json.fieldElements_arr rfl
    timestamp := Json.fieldInt_int rfl }

/-- A message can be written when its values and its time can. -/
theorem writable_toJson (hrole : Json.Writable (depth + 1) m.role)
    (hcontent : Json.Writable (depth + 1) m.content)
    (himages : ∀ image ∈ m.images, Json.Writable depth image)
    (htime : m.timestamp.natAbs < 10 ^ digitLimit) : Json.Writable (depth + 2) m.toJson := by
  refine .obj (by simp) ?_
  intro field hfield
  simp only [List.mem_cons, List.not_mem_nil, or_false] at hfield
  rcases hfield with rfl | rfl | rfl | rfl
  · exact hrole
  · exact hcontent
  · exact .arr himages
  · exact .int htime

/-- A message that was read from what can be written can be written. -/
theorem ReadsAs.writable (h : ReadsAs j m) (hj : Json.Writable (depth + 2) j) :
    Json.Writable (depth + 2) m.toJson :=
  writable_toJson (h.role ▸ hj.fieldOr _ _) (h.content ▸ hj.fieldOr _ _)
    (hj.fieldElements h.images) (hj.natAbs_fieldInt_lt h.timestamp)

end Message

namespace History

variable {j : Json} {items : List Json} {h : History Json} {depth : Nat}

private theorem ofJson_eq_ok_iff :
    ofJson j = .ok h ↔ ∃ items, j.elements = .ok items ∧ items.mapM Message.ofJson = .ok h := by
  constructor
  · exact bind_eq_ok
  · rintro ⟨items, hitems, hread⟩
    rw [ofJson, hitems]
    exact hread

/-- The messages that were read from a list are settled. -/
theorem settled_of_mapM (hread : items.mapM Message.ofJson = .ok h) : ∀ m ∈ h, m.Settled := by
  intro m hm
  obtain ⟨item, -, hitem⟩ := exists_mem_of_mapM_eq_ok hread m hm
  exact (Message.ofJson_eq_ok_iff.mp hitem).settled

/-- Settled messages are read back. -/
theorem mapM_toJson_of_settled (hs : ∀ m ∈ h, m.Settled) :
    (h.map Message.toJson).mapM Message.ofJson = .ok h :=
  mapM_map_self fun m hm ↦ (hs m hm).ofJson_toJson

/-- A history of settled messages is read back. -/
theorem ofJson_toJson_of_settled (hs : ∀ m ∈ h, m.Settled) : ofJson (toJson h) = .ok h :=
  ofJson_eq_ok_iff.mpr ⟨_, rfl, mapM_toJson_of_settled hs⟩

/-- The messages that were read from items which can be written can be written as a history. -/
theorem writable_of_mapM (hread : items.mapM Message.ofJson = .ok h)
    (hitems : ∀ item ∈ items, Json.Writable (depth + 2) item) :
    Json.Writable (depth + 3) (toJson h) := by
  refine .arr (List.forall_mem_map.mpr fun m hm ↦ ?_)
  obtain ⟨item, hitem, hreads⟩ := exists_mem_of_mapM_eq_ok hread m hm
  exact (Message.ofJson_eq_ok_iff.mp hreads).writable (hitems item hitem)

end History

/-! ### Personas -/

namespace Persona

/-- The document is read as the persona. -/
structure ReadsAs (j : Json) (p : Persona Json) : Prop where
  object : j.isObject = true
  name : j.field? "name" = some p.name
  description : p.description = j.fieldOr "description" (.str "")
  model : p.model = j.fieldOr "model" (.str "")
  systemPrompt : p.systemPrompt = j.fieldOr "system_prompt" (.str "")
  publicHistory : ∃ items, j.fieldElements "public_history" = .ok items ∧
    items.mapM Message.ofJson = .ok p.publicHistory
  privateHistories : privateOfJson j = .ok p.privateHistories
  version : j.fieldInt "generation_id" = .ok p.version
  createdAt : j.fieldInt "created_at" = .ok p.createdAt

/-- The texts and the messages of all histories are settled. -/
structure Settled (p : Persona Json) : Prop where
  description : Json.Settled (.str "") p.description
  model : Json.Settled (.str "") p.model
  systemPrompt : Json.Settled (.str "") p.systemPrompt
  shared : ∀ m ∈ p.publicHistory, m.Settled
  personal : ∀ entry ∈ p.privateHistories, ∀ m ∈ entry.2, m.Settled

variable {j : Json} {p : Persona Json} {histories : Keyed String (History Json)} {depth : Nat}

private theorem ofJson_eq_ok_iff : ofJson j = .ok p ↔ ReadsAs j p := by
  constructor
  · intro h
    unfold ofJson at h
    split at h
    · cases h
    · next hobject =>
      split at h
      · cases h
      · next name hname =>
        obtain ⟨items, hitems, h⟩ := bind_eq_ok h
        obtain ⟨shared, hshared, h⟩ := bind_eq_ok h
        obtain ⟨personal, hpersonal, h⟩ := bind_eq_ok h
        obtain ⟨version, hversion, h⟩ := bind_eq_ok h
        obtain ⟨createdAt, hcreated, h⟩ := bind_eq_ok h
        cases h
        exact ⟨by simpa using hobject, hname, rfl, rfl, rfl, ⟨items, hitems, hshared⟩, hpersonal,
          hversion, hcreated⟩
  · intro h
    obtain ⟨items, hitems, hshared⟩ := h.publicHistory
    rw [ofJson, h.object, h.name, hitems, h.privateHistories, h.version, h.createdAt]
    simp only [bind, Except.bind, hshared, ← h.description, ← h.model, ← h.systemPrompt]
    rfl

/-- Private histories are read from the fields of an object, each for the user that its key
names. -/
theorem eq_nil_or_of_privateOfJson (h : privateOfJson j = .ok histories) :
    histories = [] ∨ ∃ fields, j.filled? "private_histories" = some (.obj fields) ∧
      Keyed.keys histories = Keyed.keys fields ∧
      ∀ entry ∈ histories, ∃ field ∈ fields, History.ofJson field.2 = .ok entry.2 := by
  unfold privateOfJson at h
  split at h
  · cases h
    exact .inl rfl
  · next fields hfields =>
    have hentry (field : String × Json) (entry : String × History Json)
        (he : (do return (field.1, ← History.ofJson field.2)) = Except.ok entry) :
        entry.1 = field.1 ∧ History.ofJson field.2 = .ok entry.2 := by
      obtain ⟨read, hread, he⟩ := bind_eq_ok he
      cases he
      exact ⟨rfl, hread⟩
    refine .inr ⟨fields, hfields,
      map_eq_map_of_mapM_eq_ok (fun field entry he ↦ (hentry field entry he).1) h, ?_⟩
    intro entry hmem
    obtain ⟨field, hfield, he⟩ := exists_mem_of_mapM_eq_ok h entry hmem
    exact ⟨field, hfield, (hentry field entry he).2⟩
  · cases h

/-- The messages of private histories that were read are settled. -/
theorem settled_of_privateOfJson (h : privateOfJson j = .ok histories) :
    ∀ entry ∈ histories, ∀ m ∈ entry.2, m.Settled := by
  rcases eq_nil_or_of_privateOfJson h with rfl | ⟨fields, -, -, heach⟩
  · exact nofun
  · intro entry hentry
    obtain ⟨field, -, hread⟩ := heach entry hentry
    obtain ⟨items, -, hmessages⟩ := History.ofJson_eq_ok_iff.mp hread
    exact History.settled_of_mapM hmessages

/-- Private histories that were read from what can be written can be written. -/
theorem writable_of_privateOfJson (h : privateOfJson j = .ok histories)
    (hj : Json.Writable (depth + 5) j) : Json.Writable (depth + 4)
      (.obj (histories.map fun entry ↦ (entry.1, History.toJson entry.2))) := by
  rcases eq_nil_or_of_privateOfJson h with rfl | ⟨fields, hfields, hkeys, heach⟩
  · exact .obj .nil nofun
  · cases hj.of_filled? hfields with
    | obj distinct inner =>
      refine .obj ?_ (List.forall_mem_map.mpr fun entry hentry ↦ ?_)
      · rw [List.map_map]
        show (Keyed.keys histories).Nodup
        rw [hkeys]
        exact distinct
      · obtain ⟨field, hfield, hread⟩ := heach entry hentry
        obtain ⟨items, hitems, hmessages⟩ := History.ofJson_eq_ok_iff.mp hread
        exact History.writable_of_mapM hmessages ((inner field hfield).elements hitems)

/-- Settled private histories are read back. -/
theorem Settled.privateOfJson_toJson (h : p.Settled) :
    privateOfJson p.toJson = .ok p.privateHistories := by
  have hfield : p.toJson.field? "private_histories" = some (.obj
      (p.privateHistories.map fun entry ↦ (entry.1, History.toJson entry.2))) := rfl
  rw [privateOfJson, Json.filled?, hfield]
  cases hp : p.privateHistories with
  | nil => rfl
  | cons entry entries =>
    rw [← hp, Option.filter_some, if_pos (by simp [hp, Json.isFilled])]
    refine mapM_map_self fun entry hentry ↦ ?_
    rw [History.ofJson_toJson_of_settled (h.personal entry hentry)]
    rfl

/-- A persona that was read is settled. -/
theorem ReadsAs.settled (h : ReadsAs j p) : p.Settled where
  description := h.description ▸ Json.settled_fieldOr ..
  model := h.model ▸ Json.settled_fieldOr ..
  systemPrompt := h.systemPrompt ▸ Json.settled_fieldOr ..
  shared := by
    obtain ⟨items, -, hshared⟩ := h.publicHistory
    exact History.settled_of_mapM hshared
  personal := settled_of_privateOfJson h.privateHistories

/-- A settled persona is read back. -/
theorem Settled.ofJson_toJson (h : p.Settled) : ofJson p.toJson = .ok p :=
  ofJson_eq_ok_iff.mpr {
    object := rfl
    name := rfl
    description := (Json.fieldOr_of_settled rfl h.description).symm
    model := (Json.fieldOr_of_settled rfl h.model).symm
    systemPrompt := (Json.fieldOr_of_settled rfl h.systemPrompt).symm
    publicHistory := ⟨_, Json.fieldElements_arr rfl, History.mapM_toJson_of_settled h.shared⟩
    privateHistories := h.privateOfJson_toJson
    version := Json.fieldInt_int rfl
    createdAt := Json.fieldInt_int rfl }

/-- A persona can be written when its values, histories and numbers can. -/
theorem writable_toJson (hname : Json.Writable (depth + 4) p.name)
    (hdescription : Json.Writable (depth + 4) p.description)
    (hmodel : Json.Writable (depth + 4) p.model)
    (hprompt : Json.Writable (depth + 4) p.systemPrompt)
    (hshared : Json.Writable (depth + 4) (History.toJson p.publicHistory))
    (hpersonal : Json.Writable (depth + 4)
      (.obj (p.privateHistories.map fun entry ↦ (entry.1, History.toJson entry.2))))
    (hversion : p.version.natAbs < 10 ^ digitLimit)
    (hcreated : p.createdAt.natAbs < 10 ^ digitLimit) : Json.Writable (depth + 5) p.toJson := by
  refine .obj (by simp) ?_
  intro field hfield
  simp only [List.mem_cons, List.not_mem_nil, or_false] at hfield
  rcases hfield with rfl | rfl | rfl | rfl | rfl | rfl | rfl | rfl
  · exact hname
  · exact hdescription
  · exact hmodel
  · exact hprompt
  · exact hshared
  · exact hpersonal
  · exact .int hversion
  · exact .int hcreated

/-- A persona that was read from what can be written can be written. -/
theorem ReadsAs.writable (h : ReadsAs j p) (hj : Json.Writable (depth + 5) j) :
    Json.Writable (depth + 5) p.toJson := by
  obtain ⟨items, hitems, hshared⟩ := h.publicHistory
  have hname : Json.Writable (depth + 4) p.name := hj.of_field? h.name
  have hhistory : Json.Writable (depth + 4) (History.toJson p.publicHistory) :=
    History.writable_of_mapM hshared (hj.fieldElements hitems)
  exact writable_toJson hname (h.description ▸ hj.fieldOr _ _) (h.model ▸ hj.fieldOr _ _)
    (h.systemPrompt ▸ hj.fieldOr _ _) hhistory (writable_of_privateOfJson h.privateHistories hj)
    (hj.natAbs_fieldInt_lt h.version) (hj.natAbs_fieldInt_lt h.createdAt)

end Persona

/-! ### Registries -/

namespace Registry

/-- The document is read as the registry. -/
structure ReadsAs (j : Json) (r : Snapshot) : Prop where
  object : j.isObject = true
  apiBase : r.apiBase = j.fieldOr "api_base" (.str "")
  apiKey : r.apiKey = j.fieldOr "api_key" (.str "")
  models : j.fieldElements "models" = .ok r.models
  agents : ∃ items, j.fieldElements "agents" = .ok items ∧ items.mapM Persona.ofJson = .ok r.agents
  defaultModel : r.defaultModel = j.fieldOr "default_model" (.str "")
  defaultPrompt : r.defaultPrompt = j.fieldOr "default_prompt" (.str "")

/-- The texts and all personas are settled. -/
structure Settled (r : Snapshot) : Prop where
  apiBase : Json.Settled (.str "") r.apiBase
  apiKey : Json.Settled (.str "") r.apiKey
  agents : ∀ p ∈ r.agents, p.Settled
  defaultModel : Json.Settled (.str "") r.defaultModel
  defaultPrompt : Json.Settled (.str "") r.defaultPrompt

variable {j : Json} {r : Snapshot} {depth : Nat}

/-- A document is read as a registry in the way that `ReadsAs` says, and in no other. -/
theorem ofJson_eq_ok_iff : ofJson j = .ok r ↔ ReadsAs j r := by
  constructor
  · intro h
    unfold ofJson at h
    split at h
    · cases h
    · next hobject =>
      obtain ⟨models, hmodels, h⟩ := bind_eq_ok h
      obtain ⟨items, hitems, h⟩ := bind_eq_ok h
      obtain ⟨agents, hagents, h⟩ := bind_eq_ok h
      cases h
      exact ⟨by simpa using hobject, rfl, rfl, hmodels, ⟨items, hitems, hagents⟩, rfl, rfl⟩
  · intro h
    obtain ⟨items, hitems, hagents⟩ := h.agents
    rw [ofJson, h.object, h.models, hitems]
    simp only [bind, Except.bind, hagents, ← h.apiBase, ← h.apiKey, ← h.defaultModel,
      ← h.defaultPrompt]
    rfl

/-- A registry that was read is settled. -/
theorem ReadsAs.settled (h : ReadsAs j r) : r.Settled where
  apiBase := h.apiBase ▸ Json.settled_fieldOr ..
  apiKey := h.apiKey ▸ Json.settled_fieldOr ..
  agents p hp := by
    obtain ⟨items, -, hagents⟩ := h.agents
    obtain ⟨item, -, hitem⟩ := exists_mem_of_mapM_eq_ok hagents p hp
    exact (Persona.ofJson_eq_ok_iff.mp hitem).settled
  defaultModel := h.defaultModel ▸ Json.settled_fieldOr ..
  defaultPrompt := h.defaultPrompt ▸ Json.settled_fieldOr ..

/-- A settled registry is read back. -/
theorem Settled.ofJson_toJson (h : r.Settled) : ofJson r.toJson = .ok r :=
  ofJson_eq_ok_iff.mpr {
    object := rfl
    apiBase := (Json.fieldOr_of_settled rfl h.apiBase).symm
    apiKey := (Json.fieldOr_of_settled rfl h.apiKey).symm
    models := Json.fieldElements_arr rfl
    agents :=
      ⟨_, Json.fieldElements_arr rfl, mapM_map_self fun p hp ↦ (h.agents p hp).ofJson_toJson⟩
    defaultModel := (Json.fieldOr_of_settled rfl h.defaultModel).symm
    defaultPrompt := (Json.fieldOr_of_settled rfl h.defaultPrompt).symm }

/-- A registry can be written when its values and its personas can. -/
theorem writable_toJson (hbase : Json.Writable (depth + 6) r.apiBase)
    (hkey : Json.Writable (depth + 6) r.apiKey)
    (hmodels : ∀ model ∈ r.models, Json.Writable (depth + 5) model)
    (hagents : ∀ p ∈ r.agents, Json.Writable (depth + 5) p.toJson)
    (hmodel : Json.Writable (depth + 6) r.defaultModel)
    (hprompt : Json.Writable (depth + 6) r.defaultPrompt) :
    Json.Writable (depth + 7) r.toJson := by
  refine .obj (by simp) ?_
  intro field hfield
  simp only [List.mem_cons, List.not_mem_nil, or_false] at hfield
  rcases hfield with rfl | rfl | rfl | rfl | rfl | rfl
  · exact hbase
  · exact hkey
  · exact .arr hmodels
  · exact .arr (List.forall_mem_map.mpr hagents)
  · exact hmodel
  · exact hprompt

/-- A registry that was read from what can be written can be written, also with its empty defaults
taken from a registry of texts. -/
theorem ReadsAs.writable_withDefaults (h : ReadsAs j r) (hj : Json.Writable (depth + 7) j)
    (default : Registry String) :
    Json.Writable (depth + 7) (r.withDefaults default.snapshot).toJson := by
  obtain ⟨items, hitems, hread⟩ := h.agents
  have hagents (p : Persona Json) (hp : p ∈ r.agents) : Json.Writable (depth + 5) p.toJson := by
    obtain ⟨item, hitem, hreads⟩ := exists_mem_of_mapM_eq_ok hread p hp
    exact (Persona.ofJson_eq_ok_iff.mp hreads).writable (hj.fieldElements hitems item hitem)
  refine writable_toJson (h.apiBase ▸ hj.fieldOr _ _) (h.apiKey ▸ hj.fieldOr _ _)
    (hj.fieldElements h.models) hagents ?_ ?_
  · dsimp only [withDefaults]
    split
    · exact h.defaultModel ▸ hj.fieldOr _ _
    · exact .str
  · dsimp only [withDefaults]
    split
    · exact h.defaultPrompt ▸ hj.fieldOr _ _
    · exact .str

/-- Empty defaults that are taken from a registry of texts are settled. -/
theorem Settled.withDefaults (h : r.Settled) (default : Registry String) :
    (r.withDefaults default.snapshot).Settled where
  apiBase := h.apiBase
  apiKey := h.apiKey
  agents := h.agents
  defaultModel := by
    dsimp only [Registry.withDefaults]
    split
    · exact h.defaultModel
    · exact Json.settled_str _
  defaultPrompt := by
    dsimp only [Registry.withDefaults]
    split
    · exact h.defaultPrompt
    · exact Json.settled_str _

/-- Defaults that were taken from a registry are not taken from it again. -/
theorem withDefaults_withDefaults (r default : Snapshot) :
    (r.withDefaults default).withDefaults default = r.withDefaults default := by
  have hfilled (value other : Json) :
      (if (if value.isFilled then value else other).isFilled then
        if value.isFilled then value else other else other) =
          if value.isFilled then value else other := by
    by_cases hvalue : value.isFilled = true
    · simp only [hvalue, if_true]
    · simp only [hvalue, Bool.false_eq_true, if_false, ite_self]
  dsimp only [withDefaults]
  rw [hfilled, hfilled]

end Registry

end PersonaChat
