/-
  PromptEngine.Proofs.Chat.WireFormat — what is written as JSON is read back.

  Each record is written with a member for every field that is present, and each kind of field has
  a reader that takes the written member, or its absence, back to the field; so each record comes
  back from the document that it is written as (the lemmas `ofDocument?_ofJson`).  That the text
  says this document is a fact about values (`documentRead?_compactChars`).

  Main result: `wireFormats_readBack`.
-/
import PromptEngine.Chat.ToolArguments
import PromptEngine.Proofs.Json.Records

namespace PromptEngine

open Json Json.Document

/-! ## §1. Leaves. -/

theorem text?_ofJson (s : String) : text? (ofJson (.string s)) = some s := by
  rw [ofJson]
  rfl

theorem ofJson_string_ne_null (s : String) : ofJson (.string s) ≠ .null := by
  rw [ofJson]
  exact nofun

theorem index?_ofJson (n : Nat) : index? (ofJson (.ofNat n)) = some n := by
  show index? (ofJson (.number (.integer n))) = some n
  rw [ofJson, index?, if_pos (Int.natCast_nonneg n), Int.toNat_natCast]

theorem word?_role (r : Role) : word? Role.words (ofJson (.string r.toText)) = some r := by
  rw [ofJson]
  cases r <;> rfl

theorem word?_finishReason (r : FinishReason) :
    word? FinishReason.words (ofJson (.string r.toText)) = some r := by
  rw [ofJson]
  cases r <;> rfl

/-- A text that may be absent. -/
theorem optional?_text {fields : Fields} {name : String} {text? : Option String}
    (hfield : fields.lookup name = (text?.map Json.string).map ofJson) :
    optional? Document.text? fields name = some text? :=
  optional?_of_lookup hfield text?_ofJson ofJson_string_ne_null

/-! ## §2. Records. -/

/-- A tool call comes back. -/
theorem ToolCall.ofDocument?_ofJson (c : ToolCall) : ofDocument? (ofJson c.toJson) = some c := by
  have hmembers : c.toJson = .object (present [("id", some (.string c.id)),
      ("name", some (.string c.name)), ("arguments", some (.string c.arguments))]) := rfl
  obtain ⟨fields, hfields, hlookup⟩ :=
    fields?_present hmembers ["id", "name", "arguments"] rfl (by decide)
  have hid := required?_of_lookup (hlookup "id") (text?_ofJson c.id)
  have hname := required?_of_lookup (hlookup "name") (text?_ofJson c.name)
  have harguments := required?_of_lookup (hlookup "arguments") (text?_ofJson c.arguments)
  unfold ofDocument?
  rw [hfields, Option.bind_eq_bind, Option.bind_some, hid, hname, harguments]
  rfl

/-- A part of a tool call comes back. -/
theorem ToolCallDelta.ofDocument?_ofJson (d : ToolCallDelta) :
    ofDocument? (ofJson d.toJson) = some d := by
  obtain ⟨fields, hfields, hlookup⟩ :=
    fields?_present (j := d.toJson) rfl ["index", "id", "name", "arguments"] rfl (by decide)
  have hindex := required?_of_lookup (hlookup "index") (index?_ofJson d.index)
  have hid : optional? text? fields "id" = some d.id := optional?_text (hlookup "id")
  have hname : optional? text? fields "name" = some d.name := optional?_text (hlookup "name")
  have harguments : optional? text? fields "arguments" = some d.arguments :=
    optional?_text (hlookup "arguments")
  unfold ofDocument?
  rw [hfields, Option.bind_eq_bind, Option.bind_some, hindex, hid, hname, harguments]
  rfl

/-- A fragment comes back. -/
theorem Fragment.ofDocument?_ofJson (f : Fragment) : ofDocument? (ofJson f.toJson) = some f := by
  obtain ⟨fields, hfields, hlookup⟩ := fields?_present (j := f.toJson) rfl
    ["choice_index", "role", "content", "tool_calls", "finish_reason"] rfl (by decide)
  have hchoice := required?_of_lookup (hlookup "choice_index") (index?_ofJson f.choice)
  have hrole : optional? (word? Role.words) fields "role" = some f.role :=
    optional?_of_lookup (hlookup "role") word?_role fun r => ofJson_string_ne_null r.toText
  have hcontent : optional? text? fields "content" = some f.content :=
    optional?_text (hlookup "content")
  have hcalls : default? [] (list? ToolCallDelta.ofDocument?) fields "tool_calls"
      = some f.toolCalls :=
    default?_list (hlookup "tool_calls") fun d _ => d.ofDocument?_ofJson
  have hfinish : optional? (word? FinishReason.words) fields "finish_reason"
      = some f.finishReason :=
    optional?_of_lookup (hlookup "finish_reason") word?_finishReason
      fun r => ofJson_string_ne_null r.toText
  unfold ofDocument?
  rw [hfields, Option.bind_eq_bind, Option.bind_some, hchoice, hrole, hcontent, hcalls, hfinish]
  rfl

/-- A message comes back if it stays within the limit. -/
theorem Message.ofDocument?_ofJson {limit : Nat} (m : Message) (hdepth : m.toJson.depth ≤ limit)
    (hcanonical : ∀ entry ∈ m.metadata.entries, entry.2.Canonical) :
    ofDocument? limit (ofJson m.toJson) = some m := by
  obtain ⟨fields, hfields, hlookup⟩ := fields?_present (j := m.toJson) rfl
    ["role", "content", "tool_calls", "tool_call_id", "name", "finish_reason", "metadata"] rfl
    (by decide)
  have hrole := required?_of_lookup (hlookup "role") (word?_role m.role)
  have hcontent : optional? text? fields "content" = some m.content :=
    optional?_text (hlookup "content")
  have hcalls : default? [] (list? ToolCall.ofDocument?) fields "tool_calls" = some m.toolCalls :=
    default?_list (hlookup "tool_calls") fun c _ => c.ofDocument?_ofJson
  have hcallId : optional? text? fields "tool_call_id" = some m.toolCallId :=
    optional?_text (hlookup "tool_call_id")
  have hname : optional? text? fields "name" = some m.name := optional?_text (hlookup "name")
  have hfinish : optional? (word? FinishReason.words) fields "finish_reason"
      = some m.finishReason :=
    optional?_of_lookup (hlookup "finish_reason") word?_finishReason
      fun r => ofJson_string_ne_null r.toText
  -- The values of the metadata stand two levels below the message.
  have hentries : memberDepth m.metadata.entries ≤ limit - 2 := by
    cases hempty : m.metadata.isEmpty with
    | true =>
        rw [List.isEmpty_iff.mp hempty]
        exact Nat.zero_le _
    | false =>
        have hlt : (Json.object m.metadata.entries).depth < m.toJson.depth := by
          refine depth_lt_of_present (j := m.toJson) rfl (by simp) "metadata" ?_
          show (if m.metadata.isEmpty then none else some (Json.object m.metadata.entries)) = _
          rw [hempty]
          rfl
        have hsucc : memberDepth m.metadata.entries + 1 < m.toJson.depth := hlt
        omega
  have hmetadata : default? .empty (table? (limit - 2)) fields "metadata" = some m.metadata :=
    default?_table (hlookup "metadata") hentries hcanonical
  unfold ofDocument?
  rw [hfields, Option.bind_eq_bind, Option.bind_some, hrole, hcontent, hcalls, hcallId, hname,
    hfinish, hmetadata]
  rfl

/-- A conversation comes back if it stays within the limit. -/
theorem History.ofDocument?_ofJson {limit : Nat} (h : History)
    (hdepth : (History.toJson h).depth ≤ limit)
    (hcanonical : ∀ m ∈ h, ∀ entry ∈ m.metadata.entries, entry.2.Canonical) :
    History.ofDocument? limit (ofJson (History.toJson h)) = some h := by
  apply list?_ofItems
  intro m hm
  refine m.ofDocument?_ofJson ?_ (hcanonical m hm)
  have hitems : itemDepth (h.map Message.toJson) + 1 ≤ limit := hdepth
  exact itemDepth_le_iff.mp (Nat.le_sub_of_add_le hitems) _ (List.mem_map_of_mem hm)

namespace Settings

theorem isIdMember_iff (name : String) (d : Document) :
    isIdMember (some name, d) = true ↔ name ∈ ["service_id", "model_id"] := by
  unfold isIdMember
  simp

theorem names_idMembers_sublist (s : Settings) :
    (Entries.names s.idMembers).Sublist ["service_id", "model_id"] :=
  names_present_sublist _

/-- The members of settings are told apart by their names: the ids, and what is kept. -/
theorem filter_isIdMember (s : Settings) (hservice : "service_id" ∉ s.extensions.names)
    (hmodel : "model_id" ∉ s.extensions.names) :
    (Document.ofMembers (s.idMembers ++ s.extensions.entries)).filter isIdMember
        = Document.ofMembers s.idMembers ∧
      (Document.ofMembers (s.idMembers ++ s.extensions.entries)).filter (!isIdMember ·)
        = Document.ofMembers s.extensions.entries := by
  have hids : ∀ member ∈ Document.ofMembers s.idMembers, isIdMember member = true := by
    rw [ofMembers_eq_map, List.forall_mem_map]
    intro member hmember
    rw [isIdMember_iff]
    exact s.names_idMembers_sublist.subset (List.mem_map_of_mem hmember)
  have hothers : ∀ member ∈ Document.ofMembers s.extensions.entries,
      isIdMember member = false := by
    rw [ofMembers_eq_map, List.forall_mem_map]
    intro member hmember
    have hname : member.1 ∈ s.extensions.names := List.mem_map_of_mem hmember
    rw [← Bool.not_eq_true, isIdMember_iff, List.mem_pair]
    rintro (heq | heq)
    · exact hservice (heq ▸ hname)
    · exact hmodel (heq ▸ hname)
  -- The members with ids all come first, so filtering cuts the row in two.
  have hsplit : Document.ofMembers (s.idMembers ++ s.extensions.entries)
      = Document.ofMembers s.idMembers ++ Document.ofMembers s.extensions.entries := by
    rw [ofMembers_eq_map, ofMembers_eq_map, ofMembers_eq_map, List.map_append]
  rw [hsplit, List.filter_append, List.filter_append]
  constructor
  · rw [List.filter_eq_self.mpr hids, List.filter_eq_nil_iff.mpr, List.append_nil]
    intro member hmember
    rw [hothers member hmember]
    exact Bool.false_ne_true
  · rw [List.filter_eq_nil_iff.mpr, List.filter_eq_self.mpr, List.nil_append]
    · intro member hmember
      rw [hothers member hmember]
      rfl
    · intro member hmember
      rw [hids member hmember]
      exact Bool.false_ne_true

/-- Settings come back if they stay within the limit and no extension is named like an id. -/
theorem ofDocument?_ofJson {limit : Nat} (s : Settings) (hdepth : s.toJson.depth ≤ limit)
    (hcanonical : ∀ entry ∈ s.extensions.entries, entry.2.Canonical)
    (hservice : "service_id" ∉ s.extensions.names) (hmodel : "model_id" ∉ s.extensions.names) :
    ofDocument? limit (ofJson s.toJson) = some s := by
  obtain ⟨hids, hothers⟩ := s.filter_isIdMember hservice hmodel
  obtain ⟨fields, hfields, hlookup⟩ := memberFields?_present ["service_id", "model_id"]
    [("service_id", s.serviceId.map .string), ("model_id", s.modelId.map .string)] rfl (by decide)
  have hserviceId : optional? text? fields "service_id" = some s.serviceId :=
    optional?_text (hlookup "service_id")
  have hmodelId : optional? text? fields "model_id" = some s.modelId :=
    optional?_text (hlookup "model_id")
  -- The further settings stand one level below the settings.
  have hentries : memberDepth s.extensions.entries ≤ limit - 1 := by
    have hall : memberDepth (s.idMembers ++ s.extensions.entries) + 1 ≤ limit := hdepth
    have hmembers := memberDepth_le_iff.mp (Nat.le_sub_of_add_le hall)
    exact memberDepth_le_iff.mpr fun member hmember =>
      hmembers member (List.mem_append_right _ hmember)
  have hread : memberFields? ["service_id", "model_id"] (Document.ofMembers s.idMembers)
      = some fields := hfields
  rw [toJson, ofJson, ofDocument?, hids, hothers, hread,
    memberValues?_ofMembers _ _ hentries, (canonicalMembers_iff.mpr hcanonical).eq_self]
  show ((optional? text? fields "service_id").bind fun serviceId =>
    (optional? text? fields "model_id").bind fun modelId =>
      some { serviceId, modelId, extensions := .ofList s.extensions.entries }) = some s
  rw [hserviceId, hmodelId, Table.ofList_entries]
  rfl

end Settings

/-! ## §3. Texts. -/

/-- A value comes back from the text that it is written as. -/
def ReadsBack {α : Type} (write : α → Json) (read : Document → Option α) (a : α) : Prop :=
  (Document.read? (write a).compact.toList).bind read = some a

/-- The text of a value says the document that it is written as. -/
theorem readsBack_of_document {α : Type} {write : α → Json} {read : Document → Option α} {a : α}
    (hnumbers : ∀ n ∈ (write a).numbers, n.Fits) (hread : read (ofJson (write a)) = some a) :
    ReadsBack write read a := by
  unfold ReadsBack compact
  rw [String.toList_ofList, documentRead?_compactChars hnumbers, Option.bind_some]
  exact hread

/-- An object that is written as the arguments of a tool call is what is read from there. -/
theorem ToolCall.readArguments_compact (call : ToolCall) {members : List (String × Json)}
    (harguments : call.arguments = (Json.object members).compact)
    (hwritable : (Json.object members).Writable) (hcanonical : (Json.object members).Canonical) :
    call.readArguments = .ok members := by
  have hblank : ¬ call.arguments.toList.all isWhiteSpace = true := by
    -- A blank text says nothing, while this one says the object.
    intro hblank
    have hnothing := read?_blank hblank
    rw [harguments, read?_compact hwritable hcanonical] at hnothing
    contradiction
  unfold readArguments
  rw [if_neg hblank, harguments, read?_compact hwritable hcanonical]

/-- **What is written as JSON is read back.**  A tool call, a part of one, a fragment, a message, a
conversation and settings come back from their texts as they were, with their metadata and further
settings in the original order, whatever their strings hold and whichever of their fields are
present.  Numbers have to be integers of 64 bits, the nesting has to stay within the limit of the
reader, the objects inside of metadata are kept sorted by name, and no further setting is named like
an id.  So does the object that is written as the arguments of a tool call. -/
theorem wireFormats_readBack :
    (∀ c : ToolCall, ReadsBack ToolCall.toJson ToolCall.ofDocument? c) ∧
      (∀ d : ToolCallDelta, d.toJson.Writable →
        ReadsBack ToolCallDelta.toJson ToolCallDelta.ofDocument? d) ∧
      (∀ f : Fragment, f.toJson.Writable → ReadsBack Fragment.toJson Fragment.ofDocument? f) ∧
      (∀ m : Message, m.toJson.Writable →
        (∀ entry ∈ m.metadata.entries, entry.2.Canonical) →
        ReadsBack Message.toJson (Message.ofDocument? nestingLimit) m) ∧
      (∀ h : History, (History.toJson h).Writable →
        (∀ m ∈ h, ∀ entry ∈ m.metadata.entries, entry.2.Canonical) →
        ReadsBack History.toJson (History.ofDocument? nestingLimit) h) ∧
      (∀ s : Settings, s.toJson.Writable →
        (∀ entry ∈ s.extensions.entries, entry.2.Canonical) →
        "service_id" ∉ s.extensions.names → "model_id" ∉ s.extensions.names →
        ReadsBack Settings.toJson (Settings.ofDocument? nestingLimit) s) ∧
      (∀ (call : ToolCall) (members : List (String × Json)),
        (Json.object members).Writable → (Json.object members).Canonical →
        call.arguments = (Json.object members).compact → call.readArguments = .ok members) := by
  refine ⟨?_, ?_, ?_, ?_, ?_, ?_, ?_⟩
  · intro c
    exact readsBack_of_document nofun c.ofDocument?_ofJson
  · intro d hwritable
    exact readsBack_of_document hwritable.numbers d.ofDocument?_ofJson
  · intro f hwritable
    exact readsBack_of_document hwritable.numbers f.ofDocument?_ofJson
  · intro m hwritable hcanonical
    exact readsBack_of_document hwritable.numbers (m.ofDocument?_ofJson hwritable.depth hcanonical)
  · intro h hwritable hcanonical
    exact readsBack_of_document hwritable.numbers
      (History.ofDocument?_ofJson h hwritable.depth hcanonical)
  · intro s hwritable hcanonical hservice hmodel
    exact readsBack_of_document hwritable.numbers
      (s.ofDocument?_ofJson hwritable.depth hcanonical hservice hmodel)
  · intro call members hwritable hcanonical harguments
    exact call.readArguments_compact harguments hwritable hcanonical

/-- An object with the greatest and the least integer, and names in their order. -/
def limits : List (String × Json) :=
  [("", .array [.null, .object []]), ("high", .number (.integer 18446744073709551615)),
   ("low", .number (.integer (-9223372036854775808)))]

/-- A message with empty texts, control characters, quotes, and a character beyond 16 bits. -/
def letter : Message :=
  { role := .tool
    content := some "\x00\x1f \"\\/\" \t\r\n \u2028 😀"
    toolCalls := [⟨"", "\x7f", "null"⟩]
    toolCallId := some ""
    finishReason := some .contentFilter
    metadata := .ofList [("z", .object limits), ("a", .string "")] }

/-- A fragment with a part of the greatest index. -/
def scrap : Fragment :=
  { choice := 0
    content := some ""
    toolCalls := [{ index := 18446744073709551615, id := some "" }] }

/-- Settings with an empty model id. -/
def dials : Settings :=
  { modelId := some "", extensions := .ofList [("top", .object limits), ("model", .null)] }

theorem limits_canonical : (Json.object limits).Canonical := by
  have hnames : Ascending limits := by
    unfold Ascending
    decide
  have hnone : Ascending [] := List.Pairwise.nil
  exact ⟨hnames, ⟨trivial, ⟨hnone, trivial⟩, trivial⟩, trivial, trivial, trivial⟩

theorem wireFormats_readBack_letter :
    ReadsBack Message.toJson (Message.ofDocument? nestingLimit) letter ∧
      ReadsBack History.toJson (History.ofDocument? nestingLimit) [letter, letter] ∧
      ReadsBack ToolCall.toJson ToolCall.ofDocument? ⟨"", "\x7f", "null"⟩ ∧
      ReadsBack ToolCallDelta.toJson ToolCallDelta.ofDocument? { index := 18446744073709551615 } ∧
      ReadsBack Fragment.toJson Fragment.ofDocument? scrap ∧
      ReadsBack Settings.toJson (Settings.ofDocument? nestingLimit) dials ∧
      (⟨"", "", (Json.object limits).compact⟩ : ToolCall).readArguments = .ok limits := by
  obtain ⟨hcall, hdelta, hfragment, hmessage, hhistory, hsettings, harguments⟩ :=
    wireFormats_readBack
  have hletter : ∀ entry ∈ letter.metadata.entries, entry.2.Canonical := by
    intro entry hentry
    obtain rfl | rfl := List.mem_pair.mp hentry
    · exact limits_canonical
    · trivial
  have hdials : ∀ entry ∈ dials.extensions.entries, entry.2.Canonical := by
    intro entry hentry
    obtain rfl | rfl := List.mem_pair.mp hentry
    · exact limits_canonical
    · trivial
  refine ⟨hmessage letter ⟨by decide, by decide⟩ hletter,
    hhistory [letter, letter] ⟨by decide, by decide⟩ ?_, hcall _,
    hdelta _ ⟨by decide, by decide⟩, hfragment scrap ⟨by decide, by decide⟩,
    hsettings dials ⟨by decide, by decide⟩ hdials (by decide) (by decide),
    harguments _ limits ⟨by decide, by decide⟩ limits_canonical rfl⟩
  intro m hm
  obtain rfl | rfl := List.mem_pair.mp hm
  · exact hletter
  · exact hletter

end PromptEngine
