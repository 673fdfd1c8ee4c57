import GoStubs.Proofs.Proto.Messages
import GoStubs.Proofs.Wire.Fields
import GoStubs.Wire.Request
import Mathlib.Data.List.Basic
/-!
# Requests are read back

The fields that a request is written as are fields of a request, and read as a request they give it
back: what is unset stays unset and what is set stays set, be it to the empty text or to false. They
are nested one level deeper than those of its files, and those of a file as deep as its messages are
declared inside each other. So all that can go wrong between writing and reading is that messages
are declared too deep inside each other, or that a length is too large.

* `requestOf_requestFields`: a request is read back from its fields.
* `height_requestFields_le_iff`: how deep these are nested.
* `decodeRequest_encodeRequest_eq_some_iff`: which requests are read back from their bytes.
-/

namespace GoStubs.Wire

open GoStubs.Proto

/-! ## Declarations of messages -/

@[simp] theorem messagesIn_append (number : Nat) (fs gs : Fields) :
    messagesIn number (fs ++ gs) = messagesIn number fs ++ messagesIn number gs := by
  induction fs with
  | nil => rfl
  | scalar n value rest ih => simpa [messagesIn] using ih
  | message n body rest _ ih =>
    simp only [Fields.message_append, messagesIn, ih]
    split <;> rfl

@[simp] theorem messagesIn_ofText? (number n : Nat) (s? : Option String) :
    messagesIn number (.ofText? n s?) = [] := by
  cases s? <;> rfl

theorem messagesIn_ofMessages {number n : Nat} (hn : n ≠ number) (bodies : List Fields) :
    messagesIn number (.ofMessages n bodies) = [] := by
  induction bodies with
  | nil => rfl
  | cons body bodies ih => rw [Fields.ofMessages_cons, messagesIn, if_neg hn, ih]

section

variable (number n k : Nat)

theorem messageFieldsAll_cons (m : Message) (ms : List Message) :
    messageFieldsAll number (m :: ms) =
      .message number (messageFields m) (messageFieldsAll number ms) := by
  rw [messageFieldsAll]

theorem texts_messageFieldsAll (ms : List Message) :
    (messageFieldsAll n ms).texts number = [] := by
  induction ms with
  | nil => rfl
  | cons m ms ih => rw [messageFieldsAll_cons, Fields.texts, ih]

theorem messages_messageFieldsAll {number n : Nat} (hn : n ≠ number) (ms : List Message) :
    (messageFieldsAll n ms).messages number = [] := by
  induction ms with
  | nil => rfl
  | cons m ms ih => rw [messageFieldsAll_cons, Fields.messages, if_neg hn, ih]

theorem text?_messageFields (name? : Option String) (nested : List Message) :
    (messageFields ⟨name?, nested⟩).text? 1 = name? :=
  Fields.text?_of_texts (by simp [messageFields, texts_messageFieldsAll])

mutual

/-- The declarations inside a message are those that are read from its fields. -/
theorem messagesIn_messageFields : ∀ m : Message, messagesIn 3 (messageFields m) = m.nested
  | ⟨name?, nested⟩ => by
    rw [messageFields, messagesIn_append, messagesIn_ofText?, List.nil_append,
      messagesIn_messageFieldsAll]

/-- Declarations of messages are read back. -/
theorem messagesIn_messageFieldsAll (number : Nat) :
    ∀ ms : List Message, messagesIn number (messageFieldsAll number ms) = ms
  | [] => rfl
  | ⟨name?, nested⟩ :: ms => by
    rw [messageFieldsAll_cons, messagesIn, if_pos rfl, text?_messageFields,
      messagesIn_messageFields ⟨name?, nested⟩, messagesIn_messageFieldsAll number ms]

end

mutual

theorem conforms_messageFields : ∀ m : Message, (messageFields m).Conforms .message
  | ⟨name?, nested⟩ => by
    rw [messageFields]
    exact (Fields.conforms_ofText? rfl name?).append (conforms_messageFieldsAll rfl nested)

theorem conforms_messageFieldsAll {kind : Kind} {number : Nat}
    (hfield : kind.field? number = some (.message .message)) :
    ∀ ms : List Message, (messageFieldsAll number ms).Conforms kind
  | [] => .nil
  | m :: ms => by
    rw [messageFieldsAll_cons]
    exact .message hfield (conforms_messageFields m) (conforms_messageFieldsAll hfield ms)

end

mutual

theorem height_messageFields_le_iff (k : Nat) :
    ∀ m : Message, (messageFields m).height ≤ k ↔ WithinLevels k m.nested
  | ⟨name?, nested⟩ => by
    rw [messageFields, Fields.height_append, Fields.height_ofText?, Nat.zero_max,
      height_messageFieldsAll_le_iff 3 k nested]

/-- Declarations of messages are as deep in each other as the fields that they are written as. -/
theorem height_messageFieldsAll_le_iff (number k : Nat) :
    ∀ ms : List Message, (messageFieldsAll number ms).height ≤ k ↔ WithinLevels k ms
  | [] => by simp [messageFieldsAll, withinLevels_nil]
  | m :: ms => by
    have hm : (messageFields m).height + 1 ≤ k ↔ 0 < k ∧ WithinLevels (k - 1) m.nested := by
      rw [← height_messageFields_le_iff (k - 1) m]
      omega
    rw [messageFieldsAll_cons, Fields.height, Nat.max_le, hm,
      height_messageFieldsAll_le_iff number k ms, withinLevels_cons_iff]

end

end

/-! ## Services -/

theorem methodOf_methodFields (m : Method) : methodOf (methodFields m) = m := by
  have hname : (methodFields m).text? 1 = m.name? := Fields.text?_of_texts (by simp [methodFields])
  have hinput : (methodFields m).text? 2 = m.input? :=
    Fields.text?_of_texts (by simp [methodFields])
  have houtput : (methodFields m).text? 3 = m.output? :=
    Fields.text?_of_texts (by simp [methodFields])
  have hclient : (methodFields m).flag? 5 = m.clientStreaming? :=
    Fields.flag?_of_numbers (by simp [methodFields])
  have hserver : (methodFields m).flag? 6 = m.serverStreaming? :=
    Fields.flag?_of_numbers (by simp [methodFields])
  rw [methodOf, hname, hinput, houtput, hclient, hserver]

theorem conforms_methodFields (m : Method) : (methodFields m).Conforms .method := by
  have hname : (Fields.ofText? 1 m.name?).Conforms .method := Fields.conforms_ofText? rfl _
  have hinput : (Fields.ofText? 2 m.input?).Conforms .method := Fields.conforms_ofText? rfl _
  have houtput : (Fields.ofText? 3 m.output?).Conforms .method := Fields.conforms_ofText? rfl _
  have hclient : (Fields.ofFlag? 5 m.clientStreaming?).Conforms .method :=
    Fields.conforms_ofFlag? rfl _
  have hserver : (Fields.ofFlag? 6 m.serverStreaming?).Conforms .method :=
    Fields.conforms_ofFlag? rfl _
  exact (((hname.append hinput).append houtput).append hclient).append hserver

theorem height_methodFields (m : Method) : (methodFields m).height = 0 := by
  simp [methodFields]

theorem serviceOf_serviceFields (s : Service) : serviceOf (serviceFields s) = s := by
  have hname : (serviceFields s).text? 1 = s.name? :=
    Fields.text?_of_texts (by simp [serviceFields])
  have hmethods : (serviceFields s).messages 2 = s.methods.map methodFields := by
    simp [serviceFields]
  have hread : (s.methods.map methodFields).map methodOf = s.methods :=
    Function.LeftInverse.list_map methodOf_methodFields s.methods
  rw [serviceOf, hname, hmethods, hread]

theorem conforms_serviceFields (s : Service) : (serviceFields s).Conforms .service := by
  have hname : (Fields.ofText? 1 s.name?).Conforms .service := Fields.conforms_ofText? rfl _
  refine hname.append (Fields.conforms_ofMessages rfl fun body hbody => ?_)
  obtain ⟨m, -, rfl⟩ := List.mem_map.mp hbody
  exact conforms_methodFields m

theorem height_serviceFields_le (s : Service) : (serviceFields s).height ≤ 1 := by
  have hmethods : (Fields.ofMessages 2 (s.methods.map methodFields)).height ≤ 1 := by
    simp [Fields.height_ofMessages_le_iff, height_methodFields]
  simpa [serviceFields] using hmethods

/-! ## Files -/

theorem fileOptionsOf_fileOptionsFields (o : FileOptions) :
    fileOptionsOf (fileOptionsFields o) = o := by
  have hpackage : (fileOptionsFields o).text? 11 = o.goPackage? :=
    Fields.text?_of_texts (by simp [fileOptionsFields])
  rw [fileOptionsOf, hpackage]

theorem fileOf_fileFields (f : File) : fileOf (fileFields f) = f := by
  have hname : (fileFields f).text? 1 = f.name? :=
    Fields.text?_of_texts (by simp [fileFields, texts_messageFieldsAll])
  have hpackage : (fileFields f).text? 2 = f.package? :=
    Fields.text?_of_texts (by simp [fileFields, texts_messageFieldsAll])
  have hoptions : (fileFields f).merged? 8 = f.options?.map fileOptionsFields := by
    refine Fields.merged?_of_messages ?_
    cases hf : f.options? <;> simp [fileFields, messages_messageFieldsAll, hf]
  have hmessages : messagesIn 4 (fileFields f) = f.messages := by
    simp [fileFields, messagesIn_messageFieldsAll, messagesIn_ofMessages]
  have hservices : (fileFields f).messages 6 = f.services.map serviceFields := by
    simp [fileFields, messages_messageFieldsAll]
  have hreadOptions : (f.options?.map fileOptionsFields).map fileOptionsOf = f.options? := by
    cases f.options? with
    | none => rfl
    | some o => rw [Option.map_some, Option.map_some, fileOptionsOf_fileOptionsFields]
  have hreadServices : (f.services.map serviceFields).map serviceOf = f.services :=
    Function.LeftInverse.list_map serviceOf_serviceFields f.services
  rw [fileOf, hname, hpackage, hoptions, hmessages, hservices, hreadOptions, hreadServices]

theorem conforms_fileFields (f : File) : (fileFields f).Conforms .file := by
  have hname : (Fields.ofText? 1 f.name?).Conforms .file := Fields.conforms_ofText? rfl _
  have hpackage : (Fields.ofText? 2 f.package?).Conforms .file := Fields.conforms_ofText? rfl _
  have hmessages : (messageFieldsAll 4 f.messages).Conforms .file :=
    conforms_messageFieldsAll rfl _
  have hservices : (Fields.ofMessages 6 (f.services.map serviceFields)).Conforms .file := by
    refine Fields.conforms_ofMessages rfl fun body hbody => ?_
    obtain ⟨s, -, rfl⟩ := List.mem_map.mp hbody
    exact conforms_serviceFields s
  have hoptions : (Fields.ofMessages 8 (f.options?.toList.map fileOptionsFields)).Conforms
      .file := by
    refine Fields.conforms_ofMessages rfl fun body hbody => ?_
    obtain ⟨o, -, rfl⟩ := List.mem_map.mp hbody
    exact Fields.conforms_ofText? rfl o.goPackage?
  exact (((hname.append hpackage).append hmessages).append hservices).append hoptions

/-- The budget of a file has to cover its messages; its services and options take two levels. -/
theorem height_fileFields_le_iff {k : Nat} (hk : 2 ≤ k) (f : File) :
    (fileFields f).height ≤ k ↔ WithinLevels k f.messages := by
  have hservices : (Fields.ofMessages 6 (f.services.map serviceFields)).height ≤ k := by
    rw [Fields.height_ofMessages_le_iff]
    intro body hbody
    obtain ⟨s, -, rfl⟩ := List.mem_map.mp hbody
    have hle := height_serviceFields_le s
    omega
  have hoptions : (Fields.ofMessages 8 (f.options?.toList.map fileOptionsFields)).height ≤ k := by
    rw [Fields.height_ofMessages_le_iff]
    intro body hbody
    obtain ⟨o, -, rfl⟩ := List.mem_map.mp hbody
    have hzero : (fileOptionsFields o).height = 0 := Fields.height_ofText? 11 o.goPackage?
    omega
  rw [← height_messageFieldsAll_le_iff 4 k f.messages]
  simp only [fileFields, Fields.height_append, Fields.height_ofText?, Nat.max_le, Nat.zero_le,
    true_and, hservices, hoptions, and_true]

/-! ## Requests -/

/-- A request is read back from its fields. -/
theorem requestOf_requestFields (r : Request) : requestOf (requestFields r) = r := by
  have hnames : (requestFields r).texts 1 = r.filesToGenerate := by simp [requestFields]
  have hparameter : (requestFields r).text? 2 = r.parameter? :=
    Fields.text?_of_texts (by simp [requestFields])
  have hfiles : (requestFields r).messages 15 = r.files.map fileFields := by simp [requestFields]
  have hread : (r.files.map fileFields).map fileOf = r.files :=
    Function.LeftInverse.list_map fileOf_fileFields r.files
  rw [requestOf, hnames, hparameter, hfiles, hread]

theorem conforms_requestFields (r : Request) : (requestFields r).Conforms .request := by
  have hnames : (Fields.ofTexts 1 r.filesToGenerate).Conforms .request :=
    Fields.conforms_ofTexts rfl _
  have hparameter : (Fields.ofText? 2 r.parameter?).Conforms .request :=
    Fields.conforms_ofText? rfl _
  refine (hnames.append hparameter).append (Fields.conforms_ofMessages rfl fun body hbody => ?_)
  obtain ⟨f, -, rfl⟩ := List.mem_map.mp hbody
  exact conforms_fileFields f

theorem height_requestFields_le_iff {k : Nat} (hk : 2 ≤ k) (r : Request) :
    (requestFields r).height ≤ k + 1 ↔ ∀ f ∈ r.files, WithinLevels k f.messages := by
  simp only [requestFields, Fields.height_append, Fields.height_ofText?, Fields.height_ofTexts,
    Nat.max_le, Nat.zero_le, true_and, Fields.height_ofMessages_le_iff, List.forall_mem_map,
    Nat.add_le_add_iff_right, height_fileFields_le_iff hk]

/-- A request is read back from its bytes exactly if its messages are declared at most 99 levels
deep and all lengths can be written, and otherwise the bytes are refused. -/
theorem decodeRequest_encodeRequest_eq_some_iff {r r' : Request} :
    decodeRequest (encodeRequest r) = some r' ↔
      ((∀ f ∈ r.files, WithinLevels 99 f.messages) ∧ (requestFields r).Measured) ∧ r = r' := by
  rw [decodeRequest, encodeRequest, Option.map_eq_some_iff]
  simp only [decode_encode_eq_some_iff (conforms_requestFields r), nestingBudget,
    height_requestFields_le_iff (k := 99) (by decide)]
  constructor
  · intro ⟨fs, ⟨hread, hfs⟩, hr⟩
    rw [← hfs, requestOf_requestFields] at hr
    exact ⟨hread, hr⟩
  · intro ⟨hread, hr⟩
    exact ⟨_, ⟨hread, rfl⟩, (requestOf_requestFields r).trans hr⟩

/-- All lengths can be written in a request whose encoding has fewer than `2 ^ 64` bytes. -/
theorem measured_requestFields {r : Request} (h : (encodeRequest r).length < 2 ^ 64) :
    (requestFields r).Measured :=
  Fields.measured_of_length_lt (conforms_requestFields r) h

end GoStubs.Wire
