import PersonaChat.Proofs.View.Typed

/-!
# How a call to the provider ends

What comes back from a call decides how the call ends: no connection, too many requests, another
error status, a body that cannot be used, or a result. Main statement: for a provider that is
configured every call ends in one of these ways and in no other, whatever values the body holds,
and the result of a body that can be used is read off its entries in their order.

Spec guidance: `SPEC_FULL.md`, lines 184–188 and 198–202.
-/

namespace PersonaChat

open Text

/-! ### What a document says -/

/-- The entries of a field of an object. A missing or empty field has none, and a value that is no
list is refused. -/
def Json.listed? (key : String) (j : Json) : Option (List Json) :=
  match j.filled? key with
  | none => some []
  | some (.arr items) => some items
  | some _ => none

/-- The text of an entry that continues a conversation, empty where there is none. -/
def Json.spoken (item : Json) : String :=
  (((item.field? "message").bind (Json.field? "content")).bind Json.text?).getD ""

/-- An answer of the kinds that are told apart: the client fails in no other way than that the
request fails, and the body is not nested too deep to be read. -/
def HttpAnswer.Regular : HttpAnswer → Prop
  | .answered _ body => ∀ kind, Json.readBytes body ≠ .error (.tooDeep kind)
  | .requestFailed _ => True
  | .clientFailed _ => False

/-- The address and the key are texts, and there is something to be called. -/
def Api.Configured (api : Api Json) : Prop :=
  ∃ base key, api = ⟨.str base, .str key⟩ ∧ Client.withoutSlashes base ≠ "" ∧ key ≠ ""

namespace Client

/-- A result is what an object says that continues a conversation: one continuation for each entry,
in their order, with a text of its own. -/
structure Continues (model j : Json) (result : ChatResult) : Prop where
  object : j.isObject = true
  model_eq : result.model = model
  choices : ∃ items, j.listed? "choices" = some items ∧ (∀ item ∈ items, item.isObject = true) ∧
    result.choices.length = items.length ∧ ∀ (i : Nat) item, items[i]? = some item →
      ∃ c, result.choices[i]? = some c ∧ c.index = i ∧ c.content = item.spoken
  content : result.content = none ↔ result.choices = []

/-- Identifiers are those that an object lists: of its entries that are objects, in their order, as
far as they are filled in. -/
def Lists (j : Json) (ids : List Json) : Prop :=
  j.isObject = true ∧ ∃ items, j.listed? "data" = some items ∧
    ids = ((items.filter Json.isObject).filterMap (Json.field? "id")).filter Json.isFilled

/-- A call ends as what came back tells, where a document says what a result has to be. -/
inductive Classified {α : Type} (means : Json → α → Prop) : HttpAnswer → Except Failure α →
    Prop where
  /-- There is no connection. -/
  | unreachable (message : String) : Classified means (.requestFailed message)
      (.error (.refused (.make .network "NETWORK_ERROR" message)))
  /-- There are too many requests. -/
  | limited (body : List UInt8) : Classified means (.answered 429 body)
      (.error (.refused (.make .rateLimit "RATE_LIMIT" "rate limit")))
  /-- The provider answers with an error. -/
  | rejected {status : Int} (body : List UInt8) (bad : 400 ≤ status) (other : status ≠ 429) :
      Classified means (.answered status body)
        (.error (.refused ⟨.api, "API_ERROR", decodeLenient body, status⟩))
  /-- The body says nothing that could be a result. -/
  | unusable {status : Int} {body : List UInt8} {refusal : Refusal} (good : status < 400)
      (kind : refusal.kind = .api) (code : refusal.code = "INVALID_RESPONSE")
      (nothing : ∀ j a, Json.readBytes body = .ok j → ¬ means j a) :
      Classified means (.answered status body) (.error (.refused refusal))
  /-- The body says what the result is. -/
  | usable {status : Int} {body : List UInt8} {j : Json} {a : α} (good : status < 400)
      (read : Json.readBytes body = .ok j) (said : means j a) :
      Classified means (.answered status body) (.ok a)

/-! ### Entries of a document -/

private theorem content_choice (i : Nat) (item : Json) :
    (choice i item).content = item.spoken := by
  unfold choice Json.spoken
  cases hm : item.field? "message" with
  | none => rfl
  | some message =>
    cases message with
    | obj fields =>
      simp only [Option.bind_some]
      cases hc : Json.field? "content" (.obj fields) with
      | none => rfl
      | some content => cases content <;> rfl
    | _ => rfl

private theorem filterMap_filled (items : List Json) : items.filterMap (·.filled? "id") =
    ((items.filter Json.isObject).filterMap (Json.field? "id")).filter Json.isFilled := by
  induction items with
  | nil => rfl
  | cons item items ih =>
    cases hid : item.field? "id" with
    | none =>
      have hunfilled : item.filled? "id" = none := by
        rw [Json.filled?, hid]
        rfl
      rw [List.filterMap_cons_none hunfilled, ih, List.filter_cons]
      split
      · rw [List.filterMap_cons_none hid]
      · rfl
    | some id =>
      have hobject : item.isObject = true := by
        cases item <;> first | rfl | cases hid
      rw [List.filter_cons_of_pos hobject, List.filterMap_cons_some hid, List.filter_cons]
      split
      · next hfilled =>
        have hvalue : item.filled? "id" = some id := by
          rw [Json.filled?, hid, Option.filter_some, if_pos hfilled]
        rw [List.filterMap_cons_some hvalue, ih]
      · next hempty =>
        have hvalue : item.filled? "id" = none := by
          rw [Json.filled?, hid, Option.filter_some, if_neg hempty]
        rw [List.filterMap_cons_none hvalue, ih]

/-- What is read from an object is what it means, or it means nothing. -/
def Settles {α : Type} (means : Json → α → Prop) (j : Json) : Except Refusal α → Prop
  | .ok a => means j a
  | .error refusal => refusal.kind = .api ∧ refusal.code = "INVALID_RESPONSE" ∧ ∀ a, ¬ means j a

/-- The continuations of an object are read off its entries, if these are all objects. -/
theorem chatResult_eq (model j : Json) : chatResult model j =
    match j.listed? "choices" with
    | some items =>
      if items.all Json.isObject then .ok ⟨model, items.mapIdx choice, usage j⟩
      else .error (invalidResponse "接口返回格式错误" 400)
    | none => .error (invalidResponse "接口返回格式错误" 400) := by
  unfold chatResult Json.listed?
  cases j.filled? "choices" with
  | none => rfl
  | some value => cases value <;> rfl

/-- The identifiers of an object are read off its entries. -/
theorem modelIds_eq (status : Int) (j : Json) : modelIds status j =
    match j.listed? "data" with
    | some items => .ok (items.filterMap (·.filled? "id"))
    | none => .error (invalidResponse "模型列表格式错误" status) := by
  unfold modelIds Json.listed?
  cases j.filled? "data" with
  | none => rfl
  | some value => cases value <;> rfl

private theorem settles_chatResult (model : Json) {j : Json} (h : j.isObject = true) :
    Settles (Continues model) j (chatResult model j) := by
  rw [chatResult_eq]
  cases hlisted : j.listed? "choices" with
  | none =>
    refine ⟨rfl, rfl, fun result hresult ↦ ?_⟩
    obtain ⟨items, hitems, -⟩ := hresult.choices
    rw [hlisted] at hitems
    cases hitems
  | some items =>
    dsimp only
    split
    · next hall =>
      refine ⟨h, rfl, ⟨items, hlisted, List.all_eq_true.mp hall, List.length_mapIdx, ?_⟩, ?_⟩
      · intro i item hi
        refine ⟨choice i item, ?_, rfl, content_choice i item⟩
        rw [List.getElem?_mapIdx, hi]
        rfl
      · cases items <;> simp [ChatResult.content]
    · next hsome =>
      refine ⟨rfl, rfl, fun result hresult ↦ hsome ?_⟩
      obtain ⟨items', hitems', hall, -⟩ := hresult.choices
      rw [hlisted] at hitems'
      cases hitems'
      exact List.all_eq_true.mpr hall

private theorem settles_modelIds (status : Int) {j : Json} (h : j.isObject = true) :
    Settles Lists j (modelIds status j) := by
  rw [modelIds_eq]
  cases hlisted : j.listed? "data" with
  | none =>
    refine ⟨rfl, rfl, ?_⟩
    rintro ids ⟨-, items, hitems, -⟩
    rw [hlisted] at hitems
    cases hitems
  | some items => exact ⟨h, items, hlisted, filterMap_filled items⟩

/-! ### Answers -/

/-- A call that reads a result off the object of an answer ends as the answer tells. -/
theorem classified_accept {α : Type} {means : Json → α → Prop} {f : Int → Json → Except Refusal α}
    (hf : ∀ status j, j.isObject = true → Settles means j (f status j))
    (hmeans : ∀ j a, means j a → j.isObject = true) {answer : HttpAnswer}
    (regular : answer.Regular) :
    Classified means answer (accept answer >>= fun p ↦ Failure.ofRefusal (f p.1 p.2)) := by
  cases answer with
  | requestFailed message => exact .unreachable message
  | clientFailed crash => exact regular.elim
  | answered status body =>
    unfold accept
    dsimp only
    split
    · next hlimited =>
      subst hlimited
      exact .limited body
    · next hother =>
      split
      · next hbad => exact .rejected body hbad hother
      · next hgood =>
        have hlow : status < 400 := by omega
        unfold object
        cases hread : Json.readBytes body with
        | error fault =>
          cases fault with
          | malformed =>
            refine .unusable hlow rfl rfl fun j a hj ↦ ?_
            rw [hread] at hj
            cases hj
          | tooDeep kind => exact absurd hread (regular kind)
        | ok j =>
          dsimp only
          split
          · next hobject =>
            have hsettled := hf status j hobject
            show Classified means _ (Failure.ofRefusal (f status j))
            cases hresult : f status j with
            | ok a =>
              rw [hresult] at hsettled
              exact .usable hlow hread hsettled
            | error refusal =>
              rw [hresult] at hsettled
              obtain ⟨hkind, hcode, hnothing⟩ := hsettled
              refine .unusable hlow hkind hcode fun j' a hj ↦ ?_
              rw [hread] at hj
              cases hj
              exact hnothing a
          · next hnone =>
            refine .unusable hlow rfl rfl fun j' a hj hmeans' ↦ ?_
            rw [hread] at hj
            cases hj
            exact hnone (hmeans j a hmeans')

private theorem classified_readChat (model : Json) {answer : HttpAnswer}
    (regular : answer.Regular) :
    Classified (Continues model) answer (readChat model answer) :=
  classified_accept (fun _ _ ↦ settles_chatResult model) (fun _ _ h ↦ h.object) regular

private theorem classified_readModels {answer : HttpAnswer} (regular : answer.Regular) :
    Classified Lists answer (readModels answer) :=
  classified_accept (fun status _ ↦ settles_modelIds status) (fun _ _ h ↦ h.1) regular

/-! ### Calls -/

/-- What is configured can be called. -/
theorem exists_connect_of_configured {api : Api Json} (configured : api.Configured) :
    ∃ e, connect api = .ok e ∧ e.isConfigured = true := by
  obtain ⟨base, key, rfl, hbase, hkey⟩ := configured
  have hfilled : (Json.str base).isFilled = true := by
    rw [Json.isFilled, bne_iff_ne]
    rintro rfl
    exact hbase rfl
  refine ⟨⟨withoutSlashes base, .str key⟩, ?_, ?_⟩
  · rw [connect, if_pos hfilled]
    rfl
  · simp [Endpoint.isConfigured, Json.isFilled, hbase, hkey]

private theorem exists_call_chat {api : Api Json} {request : ChatRequest}
    (configured : api.Configured)
    (textual : ∀ m ∈ request.messages, m.content.Textual) (timeout : Int) :
    ∃ sent, call timeout (.chat api request) = .ok sent := by
  obtain ⟨e, he, hready⟩ := exists_connect_of_configured configured
  obtain ⟨document, hdocument⟩ := exists_payload_eq_ok textual
  simp only [call, he, hready, hdocument, Failure.ofCrash, Except.mapError, bind, Except.bind]
  exact ⟨_, rfl⟩

private theorem exists_call_models {api : Api Json} (configured : api.Configured) (timeout : Int) :
    ∃ sent, call timeout (.models api) = .ok sent := by
  obtain ⟨e, he, hready⟩ := exists_connect_of_configured configured
  simp only [call, he, hready, Failure.ofCrash, Except.mapError, bind, Except.bind]
  exact ⟨_, rfl⟩

/-- For a provider that is configured, continuing a conversation of texts and listing the models
each end as the answer tells: without a connection, with too many requests, with another error
status, with a body that says nothing, or with what the body says. -/
theorem answers_are_classified (timeout : Int) (api : Api Json) (request : ChatRequest)
    (answer : HttpAnswer) (configured : api.Configured)
    (textual : ∀ m ∈ request.messages, m.content.Textual) (regular : answer.Regular) :
    Classified (Continues request.model) answer (chat timeout api request answer) ∧
      Classified Lists answer (listModels timeout api answer) := by
  obtain ⟨question, hquestion⟩ := exists_call_chat configured textual timeout
  obtain ⟨listing, hlisting⟩ := exists_call_models configured timeout
  have hchat : chat timeout api request answer = readChat request.model answer := by
    rw [chat, hquestion]
    rfl
  have hmodels : listModels timeout api answer = readModels answer := by
    rw [listModels, hlisting]
    rfl
  rw [hchat, hmodels]
  exact ⟨classified_readChat request.model regular, classified_readModels regular⟩

/-- A body with entries that miss what is expected of them: a number for a message, and none at
all. -/
theorem answers_are_classified_of_odd_entries :
    let api : Api Json := ⟨.str "https://api.test/v1/", .str "key"⟩
    let request : ChatRequest :=
      ⟨.str "model", [.ofAssistant "![cat](data:image/png;base64,AA)" 0], .null⟩
    let body := Text.encode
      ("\x7b\"choices\": [\x7b\"message\": \x7b\"content\": \"hi\"\x7d\x7d, " ++
        "\x7b\"message\": 3\x7d, \x7b\x7d]\x7d")
    let answer : HttpAnswer := .answered 200 body
    api.Configured ∧ (∀ m ∈ request.messages, m.content.Textual) ∧ answer.Regular ∧
      Classified (Continues request.model) answer (chat 300 api request answer) ∧
      Classified Lists answer (listModels 300 api answer) ∧
      (chat 300 api request answer).toOption.map (fun result ↦
        (result.content, result.choices.map fun c ↦ (c.index, c.content))) =
          some (some "hi", [(0, "hi"), (1, ""), (2, "")]) := by
  intro api request body answer
  have configured : api.Configured := ⟨_, _, rfl, by decide +kernel, by decide⟩
  have textual : ∀ m ∈ request.messages, m.content.Textual := by
    intro m hm
    rw [List.mem_singleton.mp hm]
    exact ⟨_, rfl⟩
  have regular : answer.Regular := by
    have hread : (Json.readBytes body).toOption.isSome = true := by decide +kernel
    intro kind hdeep
    rw [hdeep] at hread
    cases hread
  obtain ⟨hchat, hmodels⟩ :=
    answers_are_classified 300 api request answer configured textual regular
  exact ⟨configured, textual, regular, hchat, hmodels, by decide +kernel⟩

end Client
end PersonaChat
