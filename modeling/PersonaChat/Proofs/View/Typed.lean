import PersonaChat.Desk.Describing
import PersonaChat.Desk.Fetch
import PersonaChat.Desk.Inspection
import PersonaChat.Proofs.Registry.Typed
import PersonaChat.Proofs.Results
import PersonaChat.Proofs.Text.Decimal

/-!
# What is typed can be shown and sent

Showing, exporting and putting questions fail where a value stands in place of a text. Of texts
they give something in every case; an export still needs a clock whose time has a calendar form.
-/

namespace PersonaChat

open Text

/-! ### Texts among values -/

namespace Json

variable {j : Json}

private theorem Textual.forOperation (h : j.Textual) (operation : String) :
    ∃ s, j.forOperation operation = .ok s := by
  obtain ⟨s, rfl⟩ := h
  exact ⟨s, rfl⟩

private theorem Textual.forSearch (h : j.Textual) : ∃ s, j.forSearch = .ok s := by
  obtain ⟨s, rfl⟩ := h
  exact ⟨s, rfl⟩

/-- A text can be looked up. -/
theorem Textual.forLookup (h : j.Textual) : j.forLookup = .ok j := by
  obtain ⟨s, rfl⟩ := h
  rfl

/-- Texts can be put in order. -/
theorem exists_sortedBy_eq_ok {α : Type} {key : α → Json} {xs : List α}
    (h : ∀ x ∈ xs, (key x).Textual) : ∃ ys, sortedBy key xs = .ok ys ∧ ys.Perm xs := by
  have htexts : (xs.map key).all isText = true := by
    refine List.all_eq_true.mpr fun j hj ↦ ?_
    obtain ⟨x, hx, rfl⟩ := List.mem_map.mp hj
    obtain ⟨s, hs⟩ := h x hx
    rw [hs]
    rfl
  have hcheck : checkComparable (xs.map key) = .ok () := by rw [checkComparable, if_pos htexts]
  exact ⟨_, by rw [sortedBy, hcheck]; rfl, List.mergeSort_perm xs _⟩

end Json

/-- Names that are texts can be compared. -/
theorem Models.exists_names_eq_ok {models : List Json} (h : ∀ model ∈ models, model.Textual) :
    ∃ texts, names models = .ok texts :=
  exists_mapM_eq_ok fun model hmodel ↦ (h model hmodel).forOperation "lower"

/-- The question about a system prompt that is a text can be put into words. -/
theorem Describing.exists_request_eq_ok (model : Json) {prompt : Json} (h : prompt.Textual)
    (now : Int) :
    ∃ text, request model prompt now =
      .ok ⟨model, [.ofUser (Guide.describePrompt text) [] now], .str ""⟩ := by
  obtain ⟨text, rfl⟩ := h
  exact ⟨text, rfl⟩

/-- Other characters than digits and hyphens do not come into a time stamp. -/
theorem Calendar.not_mem_stamp (t : Calendar) {c : Char} (hdigit : isAsciiDigit c = false)
    (hhyphen : c ≠ '-') : c ∉ t.stamp.toList := by
  have hzero : c ≠ '0' := by
    rintro rfl
    cases hdigit
  have hnat (n : Nat) : c ∉ natChars n := by
    intro h
    rw [isAsciiDigit_of_mem_natChars h] at hdigit
    cases hdigit
  have htwo (n : Nat) : c ∉ two n := by
    rw [two, paddedChars, List.mem_append, List.mem_replicate, not_or]
    exact ⟨fun h ↦ hzero h.2, hnat n⟩
  have hyear (n : Int) : c ∉ intChars n := by
    cases n with
    | ofNat n => exact hnat n
    | negSucc n =>
      rw [intChars, List.mem_cons, not_or]
      exact ⟨hhyphen, hnat _⟩
  simp [stamp, htwo, hyear]

namespace View

/-! ### Lists of personas and models -/

/-- The model is a text, and the personas are typed. -/
structure ModelUse.Typed (group : ModelUse) : Prop where
  model : group.model.Textual
  members : ∀ member ∈ group.members, member.1.Typed

private theorem typed_addMember {p : Persona Json} (hp : p.Typed) (index : Nat)
    {groups : List ModelUse}
    (h : ∀ group ∈ groups, group.Typed) : ∀ group ∈ addMember p index groups, group.Typed := by
  induction groups with
  | nil =>
    intro group hgroup
    rw [List.mem_singleton.mp hgroup]
    exact ⟨hp.model, fun member hmember ↦ by rw [List.mem_singleton.mp hmember]; exact hp⟩
  | cons first groups ih =>
    obtain ⟨hfirst, hgroups⟩ := List.forall_mem_cons.mp h
    unfold addMember
    split
    · refine List.forall_mem_cons.mpr ⟨⟨hfirst.model, fun member hmember ↦ ?_⟩, hgroups⟩
      rcases List.mem_append.mp hmember with hmember | hmember
      · exact hfirst.members member hmember
      · rw [List.mem_singleton.mp hmember]
        exact hp
    · exact List.forall_mem_cons.mpr ⟨hfirst, ih hgroups⟩

private theorem typed_foldl_addMember {members : List (Persona Json × Nat)}
    {groups : List ModelUse}
    (hm : ∀ member ∈ members, member.1.Typed) (hg : ∀ group ∈ groups, group.Typed) :
    ∀ group ∈ members.foldl (fun groups (p, index) ↦ addMember p index groups) groups,
      group.Typed := by
  induction members generalizing groups with
  | nil => exact hg
  | cons member members ih =>
    obtain ⟨hmember, hm⟩ := List.forall_mem_cons.mp hm
    exact ih hm (typed_addMember hmember member.2 hg)

variable {agents : List (Persona Json)}

private theorem exists_modelsOf_eq_ok (h : ∀ p ∈ agents, p.Typed) :
    ∃ models, agents.mapM (fun p ↦ p.model.forLookup) = .ok models :=
  exists_mapM_eq_ok fun p hp ↦ ⟨_, (h p hp).model.forLookup⟩

/-- Typed personas can be put in groups. -/
theorem exists_byModel_eq_ok (h : ∀ p ∈ agents, p.Typed) :
    ∃ groups, byModel agents = .ok groups ∧ ∀ group ∈ groups, group.Typed := by
  obtain ⟨models, hmodels⟩ := exists_modelsOf_eq_ok h
  have hnone : ∀ group ∈ ([] : List ModelUse), group.Typed := fun _ h ↦ absurd h List.not_mem_nil
  refine ⟨_, by rw [byModel, hmodels]; rfl, typed_foldl_addMember (fun member hmember ↦ ?_) hnone⟩
  exact h _ (List.fst_mem_of_mem_zipIdx hmember)

/-- A typed persona can be shown in a list. -/
theorem exists_personaLine_eq_ok {m : Member} (hm : m.persona.Typed) :
    ∃ line, personaLine m = .ok line := by
  have hsummary : ∃ shown, summary m.persona = .ok shown := by
    obtain ⟨description, hdescription⟩ := hm.description
    obtain ⟨prompt, hprompt⟩ := hm.systemPrompt
    unfold summary
    rw [hdescription, hprompt]
    split
    · exact ⟨_, rfl⟩
    · split <;> exact ⟨_, rfl⟩
  exact exists_bind_eq_ok hsummary fun shown ↦ ⟨_, rfl⟩

/-- Typed personas can be put in order. -/
theorem exists_byName_eq_ok {members : List (Persona Json × Nat)}
    (h : ∀ member ∈ members, member.1.Typed) :
    ∃ named, byName members = .ok named ∧ ∀ m ∈ named, m.persona.Typed := by
  let keyed (member : Persona Json × Nat) : Except Crash Member :=
    (member.1.name.forOperation "lower").map fun name ↦ ⟨member.1, member.2, lowerString name⟩
  have hkeyed : ∀ member ∈ members, ∃ m, keyed member = .ok m ∧ m.persona.Typed := by
    intro member hmember
    have hp := h member hmember
    obtain ⟨name, hname⟩ := hp.name.forOperation "lower"
    exact ⟨_, by dsimp only [keyed]; rw [hname]; rfl, hp⟩
  obtain ⟨named, hnamed, htyped⟩ := exists_mapM_eq_ok_forall hkeyed
  have hmapM : members.mapM (fun (p, index) ↦ (p.name.forOperation "lower").map fun name ↦
      (⟨p, index, lowerString name⟩ : Member)) = .ok named := hnamed
  refine ⟨_, by rw [byName, hmapM]; rfl, fun m hm ↦ ?_⟩
  exact htyped m ((List.mergeSort_perm named _).mem_iff.mp hm)

/-- A group of typed personas can be shown. -/
theorem exists_personaGroup_eq_ok {group : ModelUse} (hg : group.Typed) :
    ∃ shown, personaGroup group = .ok shown := by
  refine exists_bind_eq_ok_forall (exists_byName_eq_ok hg.members) fun members htyped ↦ ?_
  have hlines := exists_mapM_eq_ok fun m hm ↦ exists_personaLine_eq_ok (htyped m hm)
  exact exists_bind_eq_ok hlines fun lines ↦ ⟨_, rfl⟩

/-- Typed personas can be listed. -/
theorem exists_personas_eq_ok (h : ∀ p ∈ agents, p.Typed) :
    ∃ shown, personas agents = .ok shown := by
  refine exists_bind_eq_ok_forall (exists_byModel_eq_ok h) fun groups htyped ↦ ?_
  have hsort := Json.exists_sortedBy_eq_ok fun group hgroup ↦ (htyped group hgroup).model
  refine exists_bind_eq_ok_forall hsort fun sorted hperm ↦ ?_
  have hshown := exists_mapM_eq_ok fun group hgroup ↦
    exists_personaGroup_eq_ok (htyped group (hperm.mem_iff.mp hgroup))
  exact exists_bind_eq_ok hshown fun shown ↦ ⟨_, rfl⟩

/-- Models that are texts can be listed. -/
theorem exists_models_eq_ok (keywords : List String) {names : List Json}
    (hn : ∀ model ∈ names, model.Textual) (h : ∀ p ∈ agents, p.Typed) :
    ∃ shown, models keywords names agents = .ok shown := by
  exact exists_bind_eq_ok (exists_modelsOf_eq_ok h) fun looked ↦
    exists_bind_eq_ok (Models.exists_names_eq_ok hn) fun texts ↦ ⟨_, rfl⟩

/-! ### Histories -/

variable {m : Message Json} {h : History Json}

/-- A message of texts can be shown. -/
theorem exists_message_eq_ok (hm : m.OfTexts) (index : Int) (textMode withTime : Bool) :
    ∃ shown, message index m textMode withTime = .ok shown := by
  have htext : ∃ text, fullText m textMode = .ok text := by
    obtain ⟨content, hcontent⟩ := hm.content
    have hnames : ∃ lines, m.images.mapM mediaName = .ok lines :=
      exists_mapM_eq_ok fun image himage ↦ by
        obtain ⟨address, rfl⟩ := hm.images image himage
        exact ⟨_, rfl⟩
    unfold fullText
    rw [hcontent]
    cases textMode with
    | true =>
      exact exists_bind_eq_ok ⟨content, rfl⟩ fun shown ↦
        exists_bind_eq_ok hnames fun lines ↦ ⟨_, rfl⟩
    | false => exact ⟨_, rfl⟩
  have hsign : ∃ sign, roleSign m.role = .ok sign := by
    obtain ⟨role, hrole⟩ := hm.role
    rw [hrole, roleSign]
    simp only [Json.forLookup, Json.isComposed, Bool.false_eq_true, ↓reduceIte, bind, Except.bind]
    split <;> exact ⟨_, rfl⟩
  have hbody : ∃ shown, body m textMode = .ok shown :=
    exists_bind_eq_ok htext fun text ↦ ⟨_, rfl⟩
  exact exists_bind_eq_ok hbody fun shown ↦ exists_bind_eq_ok hsign fun sign ↦ ⟨_, rfl⟩

/-- A history of texts can be shown. -/
theorem exists_history_eq_ok (hh : ∀ m ∈ h, m.OfTexts) (offset : Int) (textMode : Bool) :
    ∃ shown, history h offset textMode = .ok shown := by
  refine exists_bind_eq_ok (exists_mapM_eq_ok fun entry hentry ↦ ?_) fun shown ↦ ⟨_, rfl⟩
  exact exists_message_eq_ok (hh _ (List.fst_mem_of_mem_zipIdx hentry)) _ _ _

/-- A message at a position is one of the history. -/
theorem mem_of_at? {index : Int} (hat : h.at? index = some m) : m ∈ h := by
  unfold History.at? at hat
  split at hat
  · exact List.mem_of_getElem? hat
  · cases hat

/-- A message of texts can be chosen. -/
theorem exists_selectedMessage_eq_ok (hm : m.OfTexts) (index : Int) (textMode : Bool) :
    ∃ shown, selectedMessage index m textMode = .ok shown := by
  obtain ⟨content, hcontent⟩ := hm.content
  have hset (content : String) : Message.OfTexts { m with content := .str content } :=
    { hm with content := ⟨content, rfl⟩ }
  unfold selectedMessage
  rw [hcontent]
  cases textMode with
  | true => exact exists_message_eq_ok (hset (Media.showAddresses content)) index true false
  | false => exact exists_message_eq_ok (hset content) index false false

/-- Positions of a history of texts can be shown. -/
theorem exists_selected_eq_ok (hh : ∀ m ∈ h, m.OfTexts) (indices : List Int) (textMode : Bool) :
    ∃ shown, selected h indices textMode = .ok shown := by
  refine exists_mapM_eq_ok fun entry hentry ↦ ?_
  obtain ⟨index, -, hat⟩ := List.mem_filterMap.mp hentry
  obtain ⟨m, hm, rfl⟩ := Option.map_eq_some_iff.mp hat
  exact exists_selectedMessage_eq_ok (hh m (mem_of_at? hm)) index textMode

/-! ### Files -/

namespace Export

/-- A typed message can be written to a file. -/
theorem exists_entry_eq_ok (hm : m.Typed) (index : Nat) : ∃ shown, entry index m = .ok shown := by
  have hlabel : ∃ label, roleLabel m.role = .ok label := by
    obtain ⟨role, -, hrole⟩ := hm.role
    rw [hrole, roleLabel]
    simp only [Json.forLookup, Json.isComposed, Bool.false_eq_true, ↓reduceIte, bind, Except.bind]
    split <;> exact ⟨_, rfl⟩
  have hmedia : ∃ lines, media m.images = .ok lines := by
    unfold media
    split
    · exact ⟨_, rfl⟩
    · refine exists_bind_eq_ok (exists_mapM_eq_ok fun entry hentry ↦ ?_) fun lines ↦ ⟨_, rfl⟩
      obtain ⟨address, haddress⟩ := hm.images _ (List.fst_mem_of_mem_zipIdx hentry)
      obtain ⟨image, index⟩ := entry
      cases haddress
      exact ⟨_, rfl⟩
  exact exists_bind_eq_ok hlabel fun label ↦ exists_bind_eq_ok hm.content.forSearch fun content ↦
    exists_bind_eq_ok hmedia fun lines ↦ ⟨_, rfl⟩

/-- Other characters than digits, hyphens and those of the words in it come into the name of a file
with the names of the persona and the user. -/
theorem mem_fileName_iff {agent user file : String} {scope : Scope} {now : Int} {c : Char}
    (h : fileName agent scope.word user now = .ok file) (hdigit : isAsciiDigit c = false)
    (hhyphen : c ≠ '-') (hplain : c ∉ "_".toList ∧ c ∉ scope.word.toList ∧ c ∉ ".txt".toList) :
    c ∈ file.toList ↔ c ∈ agent.toList ∨ c ∈ user.toList := by
  obtain ⟨time, -, hfile⟩ := bind_eq_ok h
  cases hfile
  have hstamp : c ∉ time.stamp.toList := time.not_mem_stamp hdigit hhyphen
  simp only [String.toList_append, List.mem_append, hplain, hstamp, or_false]

variable {name model scope : Json} {now : Int}

/-- A typed history can be written to a file when the clock shows a time in calendar form. -/
theorem exists_sheet_eq_ok (hn : name.Textual) (hm : model.Textual) (hs : scope.Textual)
    (hh : h.Typed) {time : Calendar} (hc : clock now = .ok time) :
    ∃ shown, sheet name model scope h now = .ok shown := by
  obtain ⟨name, rfl⟩ := hn
  obtain ⟨model, rfl⟩ := hm
  obtain ⟨scope, rfl⟩ := hs
  have hframe : ∃ shown, frame (.str name) (.str model) (.str scope) now h.length = .ok shown :=
    ⟨_, by rw [frame, hc]; rfl⟩
  refine exists_bind_eq_ok hframe fun frame ↦ ?_
  refine exists_bind_eq_ok (exists_mapM_eq_ok fun entry hentry ↦ ?_) fun entries ↦ ⟨_, rfl⟩
  exact exists_entry_eq_ok (hh _ (List.fst_mem_of_mem_zipIdx hentry)) _

/-- Nothing is written when the clock shows a time without calendar form. -/
theorem sheet_of_clock_error (hn : name.Textual) (hm : model.Textual) (hs : scope.Textual)
    (h : History Json) {crash : Crash} (hc : clock now = .error crash) :
    sheet name model scope h now = .error crash := by
  obtain ⟨name, rfl⟩ := hn
  obtain ⟨model, rfl⟩ := hm
  obtain ⟨scope, rfl⟩ := hs
  rw [sheet, frame]
  simp only [cell, hc, bind, Except.bind]

end Export
end View

/-! ### Pictures and questions -/

/-- The pictures of a typed history are texts. -/
theorem Inspection.exists_picturesAt_eq_ok {h : History Json} (hh : h.Typed) (indices : List Int) :
    ∃ pictures, picturesAt h indices = .ok pictures ∧ ∀ picture ∈ pictures, picture.Textual := by
  let ofMessage (m : Message Json) : Except Crash (List Json) := do
    return (Media.pictures (← m.content.forSearch)).map Json.str ++ m.images
  have hone : ∀ m ∈ indices.filterMap h.at?,
      ∃ pictures, ofMessage m = .ok pictures ∧ ∀ picture ∈ pictures, picture.Textual := by
    intro m hm
    obtain ⟨index, -, hat⟩ := List.mem_filterMap.mp hm
    have htyped := hh m (View.mem_of_at? hat)
    obtain ⟨content, hcontent⟩ := htyped.content
    refine ⟨(Media.pictures content).map Json.str ++ m.images, ?_, fun picture hpicture ↦ ?_⟩
    · dsimp only [ofMessage]
      rw [hcontent]
      rfl
    · rcases List.mem_append.mp hpicture with hpicture | hpicture
      · obtain ⟨url, -, rfl⟩ := List.mem_map.mp hpicture
        exact ⟨url, rfl⟩
      · exact htyped.images picture hpicture
  obtain ⟨pictures, hpictures, htexts⟩ := exists_mapM_eq_ok_forall hone
  have hmapM : (indices.filterMap h.at?).mapM (fun m ↦ do
      return (Media.pictures (← m.content.forSearch)).map Json.str ++ m.images) = .ok pictures :=
        hpictures
  refine ⟨pictures.flatten, by rw [picturesAt, hmapM]; rfl, fun picture hpicture ↦ ?_⟩
  obtain ⟨some, hsome, hpicture⟩ := List.mem_flatten.mp hpicture
  exact htexts some hsome picture hpicture

/-- Pictures that are texts can be sent. -/
theorem World.sendImages_eq_ok (w : World) {urls : List Json} (h : ∀ url ∈ urls, url.Textual) :
    (w.sendImages urls).2 = .ok () := by
  induction urls generalizing w with
  | nil => rfl
  | cons url urls ih =>
    obtain ⟨⟨url, rfl⟩, hurls⟩ := List.forall_mem_cons.mp h
    exact ih (w.sendImage url) hurls

/-- The address and the key are texts. -/
structure Api.Typed (api : Api Json) : Prop where
  base : api.base.Textual
  key : api.key.Textual

/-- The provider of a typed registry is typed. -/
theorem Registry.Typed.api {r : Registry Json} (hr : r.Typed) : r.api.Typed :=
  ⟨hr.apiBase, hr.apiKey⟩

/-- The address is a text, and all messages are typed. -/
def Query.Typed : Query → Prop
  | .chat api request => api.Typed ∧ request.messages.Typed
  | .models api => api.Typed

namespace Client

private theorem exists_connect_eq_ok {api : Api Json} (h : api.Typed) :
    ∃ e, connect api = .ok e := by
  obtain ⟨base, hbase⟩ := h.base
  unfold connect
  rw [hbase]
  split <;> exact ⟨_, rfl⟩

/-- A question of texts can be put into a document. -/
theorem exists_payload_eq_ok {request : ChatRequest}
    (h : ∀ m ∈ request.messages, m.content.Textual) :
    ∃ document, payload request = .ok document := by
  refine exists_bind_eq_ok (exists_mapM_eq_ok fun m hm ↦ ?_) fun messages ↦ ⟨_, rfl⟩
  obtain ⟨content, hcontent⟩ := h m hm
  unfold wireMessages
  rw [hcontent]
  split
  · exact ⟨_, rfl⟩
  · split <;> exact ⟨_, rfl⟩

/-- A typed question becomes a call, or it is refused. -/
theorem call_ne_crashed {query : Query} (h : query.Typed) (timeout : Int) (crash : Crash) :
    call timeout query ≠ .error (.crashed crash) := by
  intro hcall
  cases query with
  | models api =>
    obtain ⟨e, he⟩ := exists_connect_eq_ok h
    simp only [call, he, Failure.ofCrash, Except.mapError, bind, Except.bind] at hcall
    split at hcall <;> cases hcall
  | chat api request =>
    obtain ⟨e, he⟩ := exists_connect_eq_ok h.1
    obtain ⟨document, hdocument⟩ := exists_payload_eq_ok fun m hm ↦ (h.2 m hm).content
    simp only [call, he, hdocument, Failure.ofCrash, Except.mapError, bind, Except.bind] at hcall
    split at hcall <;> cases hcall

end Client

namespace World

variable (env : Surroundings)

/-- A provider of texts can be connected to. -/
theorem connect_eq_ok {api : Api Json} (h : api.Typed) : connect env api = .ok () := by
  unfold connect
  split
  · rfl
  · obtain ⟨e, he⟩ := Client.exists_connect_eq_ok h
    rw [he]
    rfl

/-- A question of texts put to the provider does not crash. -/
theorem ask_ne_crashed (w : World) {query : Query} (h : query.Typed) (crash : Crash) :
    (w.ask env query).2 ≠ .error (.crashed crash) := by
  unfold ask
  split
  · nofun
  · next timeout _ =>
    split
    · nofun
    · next failure hcall =>
      rintro ⟨⟩
      exact Client.call_ne_crashed h timeout crash hcall

end World
end PersonaChat
