import Tacacs.Legacy.Tcp

/-!
# The text encodings of original TACACS

`MarshalText` refuses fields with a CR, an LF or a NUL, and what it writes is the lines and
nothing else: `crlf.intercalate` of them, with an empty one at the end for the last CRLF
(`request_marshal_iff`). What `UnmarshalText` does is one statement too, over the lines it reads
and the words of the first of them (`request_unmarshal_iff`).

Two things follow from the second. `TrimRight` takes a set of bytes: it takes off every line end
at the end of the text and with them the empty lines, so that a request whose line is empty is
read as three lines. And the receiver shows through in every field that the message does not set.
-/

set_option autoImplicit false

namespace Tacacs
namespace Proof
namespace Legacy

open GoSem GoText
open Tacacs.Legacy

/-! ## Fields without line ends -/

/-- No CR, no LF and no NUL. -/
def Clean (s : GoString) : Prop := ∀ b ∈ s, b ≠ 0x0d ∧ b ≠ 0x0a ∧ b ≠ 0x00

theorem containsControl_eq_false {s : GoString} : containsControl s = false ↔ Clean s := by
  simp [containsControl, Clean]

instance (s : GoString) : Decidable (Clean s) := decidable_of_iff _ containsControl_eq_false

theorem validateFields_iff {fs : List GoString} :
    validateFields fs = .ok () ↔ ∀ f ∈ fs, Clean f := by
  induction fs with
  | nil => simp [validateFields]
  | cons f fs ih =>
    rw [List.forall_mem_cons, ← ih, ← containsControl_eq_false, validateFields]
    cases containsControl f <;> simp [fail]

theorem Clean.nil : Clean [] := by
  intro b hb
  exact absurd hb (by simp)

theorem clean_append {s t : GoString} : Clean (s ++ t) ↔ Clean s ∧ Clean t := by
  simp only [Clean, List.mem_append]
  constructor
  · intro h
    exact ⟨fun b hb => h b (Or.inl hb), fun b hb => h b (Or.inr hb)⟩
  · rintro ⟨hs, ht⟩ b (hb | hb)
    · exact hs b hb
    · exact ht b hb

theorem Clean.not_mem_crlf {s : GoString} (h : Clean s) : ∀ b ∈ s, b ∉ crlf := by
  intro b hb hmem
  obtain ⟨hcr, hlf, -⟩ := h b hb
  simp [crlf, hcr, hlf] at hmem

theorem Clean.toUpper {s : GoString} (h : Clean s) (unicode : Upper) :
    Clean (unicode.toUpper s) := by
  intro b hb
  by_cases hlow : b < 0x20
  · exact h b (unicode.mem_of_mem_toUpper hlow hb)
  · refine ⟨?_, ?_, ?_⟩
    all_goals
      rintro rfl
      exact hlow (by decide)

/-! ## Lines -/

theorem split_lines {ws : List GoString} (h : ∀ w ∈ ws, Clean w) (hne : ws ≠ []) :
    split crlf (crlf.intercalate ws) = ws :=
  split_intercalate (fun w hw hcr => (h w hw _ hcr).1 rfl) hne

/-- The lines that are read of lines that were written: those up to the last that is not empty. -/
theorem split_trim_lines {ws : List GoString} (h : ∀ w ∈ ws, Clean w)
    (hne : ws.rdropWhile List.isEmpty ≠ []) :
    split crlf (trimRightSet crlf (crlf.intercalate ws)) = ws.rdropWhile List.isEmpty := by
  rw [trimRightSet_intercalate fun w hw => (h w hw).not_mem_crlf]
  exact split_lines (fun w hw => h w ((List.rdropWhile_prefix _ _).mem hw)) hne

/-! ## The encoding of a request -/

/-- The parameters that are written behind the keyword. -/
def parameters (r : TCPRequest) : List GoString :=
  (if r.type = lit "AUTH" ∧ r.style ≠ [] then [r.style] else []) ++
    ((if (r.type = lit "CONNECT" ∨ r.type = lit "SLIPON" ∨ r.type = lit "SLIPOFF") ∧
        r.destHost ≠ [] then [r.destHost] else []) ++
      if r.type = lit "CONNECT" ∧ r.destPort ≠ [] then [r.destPort] else [])

theorem firstLine_eq (unicode : Upper) (r : TCPRequest) :
    r.firstLine unicode =
      [0x31] ++ (unicode.toUpper r.type :: parameters r).flatMap (0x20 :: ·) := by
  have hparam : ∀ (P : Prop) [Decidable P] (b w : GoString),
      (if P then b ++ [0x20] ++ w else b) = b ++ (if P then [w] else []).flatMap (0x20 :: ·) := by
    intro P _ b w
    split <;> simp
  have hversion : (0x30 + tcpVersion : UInt8) = 0x31 := by decide
  simp only [TCPRequest.firstLine, hparam, hversion]
  simp only [parameters, List.flatMap_cons, List.flatMap_append, List.append_assoc]
  rfl

theorem clean_flatMap {ws : List GoString} (h : ∀ w ∈ ws, Clean w) :
    Clean (ws.flatMap (0x20 :: ·)) := by
  intro b hb
  obtain ⟨w, hw, hmem⟩ := List.mem_flatMap.mp hb
  rcases List.mem_cons.mp hmem with rfl | hmem
  · decide
  · exact h w hw b hmem

/-- The fields that `MarshalText` validates. -/
def textFields (r : TCPRequest) : List GoString :=
  [r.type, r.style, r.destHost, r.destPort, r.username, r.password, r.line]

theorem mem_parameters {r : TCPRequest} {w : GoString} (h : w ∈ parameters r) :
    w ≠ [] ∧ (w = r.style ∨ w = r.destHost ∨ w = r.destPort) := by
  have hone : ∀ {P : Prop} {v : GoString} [Decidable (P ∧ v ≠ [])],
      (w ∈ if P ∧ v ≠ [] then [v] else []) → w ≠ [] ∧ w = v := by
    intro P v _ hw
    split at hw <;> simp_all
  simp only [parameters, List.mem_append] at h
  rcases h with h | h | h
  · obtain ⟨hne, rfl⟩ := hone h
    exact ⟨hne, Or.inl rfl⟩
  · obtain ⟨hne, rfl⟩ := hone h
    exact ⟨hne, Or.inr (Or.inl rfl)⟩
  · obtain ⟨hne, rfl⟩ := hone h
    exact ⟨hne, Or.inr (Or.inr rfl)⟩

theorem clean_firstLine {r : TCPRequest} (h : ∀ f ∈ textFields r, Clean f) (unicode : Upper) :
    Clean (r.firstLine unicode) := by
  rw [firstLine_eq, clean_append]
  refine ⟨by decide, clean_flatMap ?_⟩
  intro w hw
  rcases List.mem_cons.mp hw with rfl | hw
  · exact (h _ (by simp [textFields])).toUpper unicode
  · apply h
    rcases (mem_parameters hw).2 with rfl | rfl | rfl <;> simp [textFields]

/-- The lines of a request, with the empty one behind the last CRLF. -/
def requestLines (unicode : Upper) (r : TCPRequest) : List GoString :=
  [r.firstLine unicode, r.username, r.password, r.line, []]

theorem request_marshal_iff {unicode : Upper} {r : TCPRequest} {b : Bytes} :
    r.marshalText unicode = .ok b ↔
      (∀ f ∈ textFields r, Clean f) ∧ b = crlf.intercalate (requestLines unicode r) := by
  have hlines : r.firstLine unicode ++ crlf ++ r.username ++ crlf ++ r.password ++ crlf ++ r.line ++
      crlf = crlf.intercalate (requestLines unicode r) := by
    simp [requestLines, List.intercalate_cons_cons]
  rw [TCPRequest.marshalText, hlines, bind_eq_ok, ← validateFields_iff, textFields]
  constructor
  · rintro ⟨u, hvalid, hb⟩
    exact ⟨hvalid, (Except.ok.inj hb).symm⟩
  · rintro ⟨hvalid, rfl⟩
    exact ⟨(), hvalid, rfl⟩

theorem clean_requestLines (unicode : Upper) {r : TCPRequest} (h : ∀ f ∈ textFields r, Clean f) :
    ∀ w ∈ requestLines unicode r, Clean w := by
  simp only [requestLines, List.forall_mem_cons]
  refine ⟨clean_firstLine h unicode, h _ ?_, h _ ?_, h _ ?_, Clean.nil, by simp⟩
  all_goals simp [textFields]

/-! ## The decoding of a request -/

/-- A request as it is read off a text, before anything is assigned. -/
structure Parsed where
  type : GoString
  params : List GoString
  username : GoString
  password : GoString
  line : GoString

/-- Four lines at least, all of them clean, and a first line of two words at least. -/
def Reads (unicode : Upper) (data : Bytes) (m : Parsed) : Prop :=
  ∃ first more version keyword,
    split crlf (trimRightSet crlf data) = first :: m.username :: m.password :: m.line :: more ∧
      (∀ w ∈ split crlf (trimRightSet crlf data), Clean w) ∧
      fields first = version :: keyword :: m.params ∧ m.type = unicode.toUpper keyword

def Parsed.assign (m : Parsed) (r : TCPRequest) : TCPRequest :=
  { ({ r with type := m.type }).assignParameters m.params with
    username := m.username, password := m.password, line := m.line }

theorem Parsed.assign_eq (m : Parsed) (r : TCPRequest) :
    m.assign r =
      ⟨m.type,
        if m.type ∈ [lit "AUTH"] then m.params[0]?.getD r.style else r.style,
        if m.type ∈ [lit "CONNECT", lit "SLIPON", lit "SLIPOFF"] then m.params[0]?.getD r.destHost
        else r.destHost,
        if m.type ∈ [lit "CONNECT"] then m.params[1]?.getD r.destPort else r.destPort,
        m.username, m.password, m.line⟩ := by
  obtain ⟨type, params, username, password, line⟩ := m
  simp only [Parsed.assign, TCPRequest.assignParameters, List.mem_cons, List.not_mem_nil, or_false]
  by_cases hauth : type = lit "AUTH"
  · subst hauth
    rfl
  · by_cases hconnect : type = lit "CONNECT"
    · subst hconnect
      rfl
    · by_cases hslip : type = lit "SLIPON" ∨ type = lit "SLIPOFF" <;> simp [hauth, hconnect, hslip]

theorem request_unmarshal_iff {unicode : Upper} {r q : TCPRequest} {data : Bytes} :
    r.unmarshalText unicode data = .ok q ↔ ∃ m, Reads unicode data m ∧ q = m.assign r := by
  constructor
  · intro h
    simp only [TCPRequest.unmarshalText] at h
    split at h
    · next first username password line more hlines =>
      obtain ⟨_, hvalid, h⟩ := bind_eq_ok.mp h
      split at h
      · next version keyword rest hwords =>
        refine ⟨⟨unicode.toUpper keyword, rest, username, password, line⟩, ?_,
          (Except.ok.inj h).symm⟩
        exact ⟨first, more, version, keyword, hlines, validateFields_iff.mp hvalid, hwords, rfl⟩
      · exact absurd h (fail_ne_ok _ _)
    · exact absurd h (fail_ne_ok _ _)
  · rintro ⟨m, ⟨first, more, version, keyword, hlines, hclean, hwords, htype⟩, rfl⟩
    have hvalid := validateFields_iff.mpr hclean
    rw [hlines] at hvalid
    simp only [TCPRequest.unmarshalText, hlines, hvalid, hwords, ok_bind, ← htype]
    rfl

theorem Reads.unique {unicode : Upper} {data : Bytes} {m m' : Parsed}
    (h : Reads unicode data m) (h' : Reads unicode data m') : m = m' := by
  obtain ⟨first, more, version, keyword, hlines, -, hwords, htype⟩ := h
  obtain ⟨first', more', version', keyword', hlines', -, hwords', htype'⟩ := h'
  cases m
  cases m'
  simp_all

/-- What is read into an empty request can be written: the lines of a text are clean, and so are
    the words of its first line. -/
theorem unmarshal_marshals {unicode : Upper} {data : Bytes} {q : TCPRequest}
    (h : TCPRequest.zero.unmarshalText unicode data = .ok q) :
    ∃ b, q.marshalText unicode = .ok b := by
  obtain ⟨m, ⟨first, more, version, keyword, hlines, hclean, hwords, htype⟩, rfl⟩ :=
    request_unmarshal_iff.mp h
  rw [hlines] at hclean
  simp only [List.forall_mem_cons] at hclean
  obtain ⟨hfirst, husername, hpassword, hline, -⟩ := hclean
  have hword : ∀ w ∈ fields first, Clean w := fun w hw b hb =>
    hfirst b (mem_of_mem_fieldsFunc hw hb)
  rw [hwords] at hword
  simp only [List.forall_mem_cons] at hword
  obtain ⟨-, hkeyword, hparams⟩ := hword
  have hparam : ∀ i : Nat, Clean (m.params[i]?.getD []) := by
    intro i
    cases hi : m.params[i]? with
    | none => exact Clean.nil
    | some w => exact hparams w (List.mem_of_getElem? hi)
  have hassigned : ∀ (c : Prop) [Decidable c] (i : Nat),
      Clean (if c then m.params[i]?.getD [] else []) := by
    intro c _ i
    split
    · exact hparam i
    · exact Clean.nil
  refine ⟨_, request_marshal_iff.mpr ⟨?_, rfl⟩⟩
  simp only [textFields, Parsed.assign_eq, List.forall_mem_cons]
  refine ⟨?_, hassigned _ 0, hassigned _ 0, hassigned _ 1, husername, hpassword, hline, by simp⟩
  rw [htype]
  exact hkeyword.toUpper unicode

/-! ## Requests read back -/

def keywords : List GoString :=
  [lit "AUTH", lit "LOGIN", lit "CONNECT", lit "SUPERUSER", lit "LOGOUT", lit "SLIPON",
    lit "SLIPOFF", lit "SLIPADDR"]

theorem keywords_upper {w : GoString} (h : w ∈ keywords) (unicode : Upper) :
    unicode.toUpper w = w := by
  have hascii : keywords.all fun w => w.all fun b =>
      decide (b < 0x80) && (Char.ofUInt8 b).toUpper == Char.ofUInt8 b := by decide
  have hw := List.all_eq_true.mp hascii w h
  apply unicode.toUpper_eq_self
  intro b hb
  simpa using List.all_eq_true.mp hw b hb

theorem keywords_word {w : GoString} (h : w ∈ keywords) : w ≠ [] ∧ hasSpace w = false := by
  have hword : keywords.all fun w => !w.isEmpty && !hasSpace w := by decide +kernel
  simpa using List.all_eq_true.mp hword w h

/-- A keyword with its own parameters only, each of them one word. -/
structure Plain (r : TCPRequest) : Prop where
  keyword : r.type ∈ keywords
  style_word : hasSpace r.style = false
  host_word : hasSpace r.destHost = false
  port_word : hasSpace r.destPort = false
  style_type : r.style ≠ [] → r.type = lit "AUTH"
  host_type : r.destHost ≠ [] →
    r.type = lit "CONNECT" ∨ r.type = lit "SLIPON" ∨ r.type = lit "SLIPOFF"
  port_type : r.destPort ≠ [] → r.type = lit "CONNECT"
  port_host : r.destPort ≠ [] → r.destHost ≠ []

theorem fields_flatMap (ws : List GoString) : ∀ s : GoString,
    fields (s ++ ws.flatMap (0x20 :: ·)) = fields s ++ ws.flatMap fields := by
  induction ws with
  | nil => intro s; simp
  | cons w ws ih =>
    intro s
    rw [List.flatMap_cons, ← List.append_assoc, ih, fields_append_space, List.flatMap_cons,
      List.append_assoc]

theorem flatMap_fields {ws : List GoString} (h : ∀ w ∈ ws, w ≠ [] ∧ hasSpace w = false) :
    ws.flatMap fields = ws := by
  induction ws with
  | nil => rfl
  | cons w ws ih =>
    obtain ⟨hne, hspace⟩ := h w (List.mem_cons_self ..)
    rw [List.flatMap_cons, fields_eq hspace, if_neg hne,
      ih fun v hv => h v (List.mem_cons_of_mem w hv)]
    rfl

theorem Plain.parameters_word {r : TCPRequest} (h : Plain r) :
    ∀ w ∈ parameters r, w ≠ [] ∧ hasSpace w = false := by
  intro w hw
  obtain ⟨hne, hfield⟩ := mem_parameters hw
  refine ⟨hne, ?_⟩
  rcases hfield with rfl | rfl | rfl
  · exact h.style_word
  · exact h.host_word
  · exact h.port_word

theorem Plain.fields_firstLine {r : TCPRequest} (h : Plain r) (unicode : Upper) :
    fields (r.firstLine unicode) = [0x31] :: r.type :: parameters r := by
  have hwords : ∀ w ∈ r.type :: parameters r, w ≠ [] ∧ hasSpace w = false :=
    List.forall_mem_cons.mpr ⟨keywords_word h.keyword, h.parameters_word⟩
  have hversion : fields [0x31] = [[0x31]] := by decide
  rw [firstLine_eq, keywords_upper h.keyword, fields_flatMap, flatMap_fields hwords, hversion]
  rfl

/-- The parameters go back to where they came from. -/
theorem Plain.assign_zero {r : TCPRequest} (h : Plain r) :
    (⟨r.type, parameters r, r.username, r.password, r.line⟩ : Parsed).assign .zero = r := by
  obtain ⟨type, style, host, port, username, password, line⟩ := r
  have hstyle : ¬ type = lit "AUTH" → style = [] := not_imp_comm.mp h.style_type
  have hhost : ¬ (type = lit "CONNECT" ∨ type = lit "SLIPON" ∨ type = lit "SLIPOFF") →
      host = [] := not_imp_comm.mp h.host_type
  have hport : ¬ type = lit "CONNECT" → port = [] := not_imp_comm.mp h.port_type
  have hporthost : host = [] → port = [] := not_imp_not.mp h.port_host
  simp only [Parsed.assign_eq, parameters, List.mem_cons, List.not_mem_nil, or_false]
  by_cases hauth : type = lit "AUTH"
  · subst hauth
    obtain rfl := hhost (by decide)
    obtain rfl := hport (by decide)
    have hother : lit "AUTH" ≠ lit "CONNECT" ∧ lit "AUTH" ≠ lit "SLIPON" ∧
        lit "AUTH" ≠ lit "SLIPOFF" := by decide
    by_cases hs : style = [] <;> simp [hs, hother, TCPRequest.zero]
  · obtain rfl := hstyle hauth
    by_cases hconnect : type = lit "CONNECT"
    · subst hconnect
      by_cases hh : host = []
      · obtain rfl := hporthost hh
        simp [hh, hauth, TCPRequest.zero]
      · by_cases hp : port = [] <;> simp [hh, hp, hauth, TCPRequest.zero]
    · obtain rfl := hport hconnect
      by_cases hh : host = []
      · simp [hh, hauth, hconnect, TCPRequest.zero]
      · have hslip := (h.host_type hh).resolve_left hconnect
        simp [hh, hauth, hconnect, hslip, TCPRequest.zero]

theorem lines_of_line_ne_nil {a b c d : GoString} (h : d ≠ []) :
    [a, b, c, d, []].rdropWhile List.isEmpty = [a, b, c, d] := by
  have hlast : ¬ d.isEmpty := by simp [h]
  exact (List.rdropWhile_concat_pos _ [a, b, c, d] [] rfl).trans
    (List.rdropWhile_concat_neg _ [a, b, c] d hlast)

theorem lines_of_line_nil (a b c : GoString) :
    ([a, b, c, [], []].rdropWhile List.isEmpty).length ≤ 3 := by
  have hdrop : [a, b, c, [], []].rdropWhile List.isEmpty = [a, b, c].rdropWhile List.isEmpty :=
    (List.rdropWhile_concat_pos _ [a, b, c, []] [] rfl).trans
      (List.rdropWhile_concat_pos _ [a, b, c] [] rfl)
  rw [hdrop]
  exact (List.rdropWhile_prefix _ _).length_le

theorem firstLine_ne_nil (unicode : Upper) (r : TCPRequest) : r.firstLine unicode ≠ [] := by
  rw [firstLine_eq]
  exact List.cons_ne_nil _ _

theorem split_requestLines (unicode : Upper) {r : TCPRequest} (h : ∀ f ∈ textFields r, Clean f) :
    split crlf (trimRightSet crlf (crlf.intercalate (requestLines unicode r))) =
      (requestLines unicode r).rdropWhile List.isEmpty := by
  apply split_trim_lines (clean_requestLines unicode h)
  intro hnil
  have hempty := List.rdropWhile_eq_nil_iff.mp hnil (r.firstLine unicode) (by simp [requestLines])
  exact firstLine_ne_nil unicode r (List.isEmpty_iff.mp hempty)

theorem Plain.reads {r : TCPRequest} (h : Plain r) (unicode : Upper)
    (hclean : ∀ f ∈ textFields r, Clean f) (hline : r.line ≠ []) :
    Reads unicode (crlf.intercalate (requestLines unicode r))
      ⟨r.type, parameters r, r.username, r.password, r.line⟩ := by
  have hsplit := (split_requestLines unicode hclean).trans (lines_of_line_ne_nil hline)
  refine ⟨r.firstLine unicode, [], [0x31], r.type, hsplit, ?_, h.fields_firstLine unicode,
    (keywords_upper h.keyword unicode).symm⟩
  intro w hw
  rw [hsplit] at hw
  exact clean_requestLines unicode hclean w (List.mem_append_left [[]] hw)

/-- A request is read back exactly if its line is not empty. -/
theorem request_roundTrip_iff (unicode : Upper) {r : TCPRequest} {b : Bytes} (h : Plain r)
    (hb : r.marshalText unicode = .ok b) :
    TCPRequest.zero.unmarshalText unicode b = .ok r ↔ r.line ≠ [] := by
  obtain ⟨hclean, rfl⟩ := request_marshal_iff.mp hb
  rw [request_unmarshal_iff]
  constructor
  · rintro ⟨m, ⟨first, more, version, keyword, hread, -⟩, -⟩ hline
    have hlen := lines_of_line_nil (r.firstLine unicode) r.username r.password
    rw [split_requestLines unicode hclean, requestLines, hline] at hread
    rw [hread] at hlen
    simp only [List.length_cons] at hlen
    omega
  · intro hline
    exact ⟨_, h.reads unicode hclean hline, h.assign_zero.symm⟩

/-- A request to connect, with every parameter it can have. -/
theorem request_roundTrip_connect :
    let r : TCPRequest :=
      ⟨lit "CONNECT", [], lit "10.0.0.1", lit "23", lit "alice", [], lit "0"⟩
    let b := lit "1 CONNECT 10.0.0.1 23\r\nalice\r\n\r\n0\r\n"
    TCPRequest.zero.unmarshalText .asciiOnly b = .ok r := by
  have hplain : Plain ⟨lit "CONNECT", [], lit "10.0.0.1", lit "23", lit "alice", [], lit "0"⟩ := by
    constructor <;> decide
  exact (request_roundTrip_iff .asciiOnly hplain (by decide +kernel)).mpr (by decide)

/-- A login without a line: its text ends in two line ends, and both are trimmed. -/
theorem request_roundTrip_emptyLine :
    let r : TCPRequest := ⟨lit "LOGIN", [], [], [], lit "alice", lit "secret", []⟩
    let b := lit "1 LOGIN\r\nalice\r\nsecret\r\n\r\n"
    Plain r ∧ r.marshalText .asciiOnly = .ok b ∧
      TCPRequest.zero.unmarshalText .asciiOnly b =
        fail (validationError "tcp_request" "expected 4 lines" .invalidPacket) :=
  ⟨by constructor <;> decide, by decide +kernel, by decide +kernel⟩

theorem Reads.params_word {unicode : Upper} {data : Bytes} {m : Parsed}
    (h : Reads unicode data m) : ∀ w ∈ m.params, w ≠ [] ∧ hasSpace w = false := by
  obtain ⟨first, more, version, keyword, -, -, hwords, -⟩ := h
  intro w hw
  apply word_of_mem_fields
  rw [hwords]
  exact List.mem_cons_of_mem _ (List.mem_cons_of_mem _ hw)

/-- What is read into an empty request is plain: its parameters are words, and only those that the
    keyword has are assigned. -/
theorem Reads.plain {unicode : Upper} {data : Bytes} {m : Parsed} (h : Reads unicode data m)
    (hkeyword : m.type ∈ keywords) : Plain (m.assign .zero) := by
  -- a parameter that is assigned is a word, and one that is not stays empty
  have hword : ∀ (c : Prop) [Decidable c] (i : Nat),
      hasSpace (if c then m.params[i]?.getD [] else []) = false := by
    intro c _ i
    split
    · cases hi : m.params[i]? with
      | none => rfl
      | some w => exact (h.params_word w (List.mem_of_getElem? hi)).2
    · rfl
  have htype : ∀ (c : Prop) [Decidable c] (w : GoString), (if c then w else []) ≠ [] → c := by
    intro c _ w hne
    by_contra hc
    exact hne (if_neg hc)
  rw [Parsed.assign_eq]
  refine ⟨hkeyword, hword _ 0, hword _ 0, hword _ 1, ?_, ?_, ?_, ?_⟩
  · intro hne
    simpa using htype _ _ hne
  · intro hne
    simpa using htype _ _ hne
  · intro hne
    simpa using htype _ _ hne
  · -- a second parameter comes after a first
    intro hne
    have hconnect := htype _ _ hne
    have hhost : m.type ∈ [lit "CONNECT", lit "SLIPON", lit "SLIPOFF"] :=
      List.mem_cons.mpr (Or.inl (List.mem_singleton.mp hconnect))
    dsimp only [TCPRequest.zero] at hne ⊢
    rw [if_pos hconnect] at hne
    rw [if_pos hhost]
    cases hparams : m.params with
    | nil => simp [hparams] at hne
    | cons w params => exact (h.params_word w (by simp [hparams])).1

/-- **What was read can be written and read again.** A text that is read into an empty request gives
    one that `MarshalText` writes, and, if it has one of the keywords and a line, one that is read
    from what was written: so the text that is written stands for all that are read alike. -/
theorem request_rewritten (unicode : Upper) (data : Bytes) (q : TCPRequest)
    (h : TCPRequest.zero.unmarshalText unicode data = .ok q) :
    ∃ b, q.marshalText unicode = .ok b ∧
      (q.type ∈ keywords → q.line ≠ [] → TCPRequest.zero.unmarshalText unicode b = .ok q) := by
  obtain ⟨b, hb⟩ := unmarshal_marshals h
  refine ⟨b, hb, ?_⟩
  intro hkeyword hline
  obtain ⟨m, hreads, rfl⟩ := request_unmarshal_iff.mp h
  obtain ⟨hclean, rfl⟩ := request_marshal_iff.mp hb
  have hplain := hreads.plain (by rwa [Parsed.assign_eq] at hkeyword)
  rw [request_unmarshal_iff]
  exact ⟨_, hplain.reads unicode hclean hline, hplain.assign_zero.symm⟩

/-- A keyword in lower case with blanks around its parameters, and a fifth line. -/
theorem request_rewritten_connect :
    let q : TCPRequest :=
      ⟨lit "CONNECT", [], lit "10.0.0.1", lit "23", lit "alice", lit "pw", lit "0"⟩
    ∃ b, q.marshalText .asciiOnly = .ok b ∧ TCPRequest.zero.unmarshalText .asciiOnly b = .ok q := by
  intro q
  obtain ⟨b, hb, hread⟩ := request_rewritten .asciiOnly
    (lit "1  connect 10.0.0.1  23 \r\nalice\r\npw\r\n0\r\nmore\r\n") q (by decide +kernel)
  exact ⟨b, hb, hread (by decide) (by decide)⟩

/-! ## Replies -/

def replyLine (r : TCPReply) : GoString :=
  if r.text ≠ [] then r.code ++ [0x20] ++ r.text else r.code

theorem reply_marshal_iff {r : TCPReply} {b : Bytes} :
    r.marshalText = .ok b ↔
      r.code.length = 3 ∧ (Clean r.code ∧ Clean r.text) ∧ b = replyLine r ++ crlf := by
  have hvalid : validateFields [r.code, r.text] = .ok () ↔ Clean r.code ∧ Clean r.text := by
    simp [validateFields_iff]
  rw [TCPReply.marshalText, ← hvalid]
  by_cases hcode : r.code.length = 3
  · rw [if_neg (not_not.mpr hcode), bind_eq_ok]
    constructor
    · rintro ⟨_, hok, hb⟩
      exact ⟨hcode, hok, (Except.ok.inj hb).symm⟩
    · rintro ⟨-, hok, rfl⟩
      exact ⟨(), hok, rfl⟩
  · rw [if_pos hcode]
    simp [hcode]

theorem reply_unmarshal_iff {r q : TCPReply} {data : Bytes} :
    r.unmarshalText data = .ok q ↔
      3 ≤ (trimRightSet crlf data).length ∧
        q = ⟨(trimRightSet crlf data).take 3,
          if 3 < (trimRightSet crlf data).length then
            TCPReply.trimSeparator ((trimRightSet crlf data).drop 3)
          else r.text⟩ := by
  simp only [TCPReply.unmarshalText]
  generalize trimRightSet crlf data = line
  by_cases hshort : line.length < 3
  · rw [if_pos hshort]
    simp [hshort]
  · have hlen : 3 ≤ line.length := Nat.not_lt.mp hshort
    have hcode : (slice line 0 3 : Go GoError Bytes) = .ok (line.take 3) :=
      slice_eq [] (line.drop 3) (by simp) rfl (by simp [hlen])
    have hrest : (slice line 3 line.length : Go GoError Bytes) = .ok (line.drop 3) :=
      slice_eq (line.take 3) [] (by simp) (by simp [hlen]) (by simp; omega)
    rw [if_neg hshort, hcode, ok_bind]
    by_cases htext : 3 < line.length
    · simp only [htext, hrest, hlen, ok_bind, if_true, true_and]
      exact ⟨fun h => (Except.ok.inj h).symm, fun h => h ▸ rfl⟩
    · simp only [htext, hlen, if_false, true_and]
      exact ⟨fun h => (Except.ok.inj h).symm, fun h => h ▸ rfl⟩

theorem clean_replyLine {r : TCPReply} (hcode : Clean r.code) (htext : Clean r.text) :
    Clean (replyLine r) := by
  unfold replyLine
  split
  · exact clean_append.mpr ⟨clean_append.mpr ⟨hcode, by decide⟩, htext⟩
  · exact hcode

/-- A line that is clean and not empty is what is left of it with its line end. -/
theorem trim_line {line : GoString} (h : Clean line) (hne : line ≠ []) :
    trimRightSet crlf (line ++ crlf) = line := by
  rw [trimRightSet_append fun b hb => hb]
  exact trimRightSet_append_of_ne_nil hne h.not_mem_crlf []

theorem reply_unmarshal_line {r : TCPReply} (hlen : r.code.length = 3) :
    (⟨(replyLine r).take 3,
        if 3 < (replyLine r).length then TCPReply.trimSeparator ((replyLine r).drop 3)
        else TCPReply.zero.text⟩ : TCPReply) = r := by
  obtain ⟨code, text⟩ := r
  unfold replyLine
  by_cases htext : text = []
  · subst htext
    have htake : code.take 3 = code := List.take_of_length_le (le_of_eq hlen)
    simp [hlen, htake, TCPReply.zero]
  · have htake : (code ++ [0x20] ++ text).take 3 = code := by
      rw [List.append_assoc, ← hlen, List.take_left]
    have hdrop : (code ++ [0x20] ++ text).drop 3 = 0x20 :: text := by
      rw [List.append_assoc, ← hlen, List.drop_left]
      rfl
    have hlong : 3 < (code ++ [0x20] ++ text).length := by
      rw [List.length_append, List.length_append, hlen, List.length_singleton]
      omega
    simp only [ne_eq, htext, not_false_eq_true, if_true, hlong, htake, hdrop]
    rfl

theorem length_replyLine {r : TCPReply} (hlen : r.code.length = 3) : 3 ≤ (replyLine r).length := by
  unfold replyLine
  split
  · rw [List.append_assoc, List.length_append]
    omega
  · omega

/-- Nothing in a field makes a line: a request that is written is its four lines and the end of
    the last, and a reply one line, which is read back. -/
theorem marshalText_lines (unicode : Upper) :
    (∀ (r : TCPRequest) (b : Bytes), r.marshalText unicode = .ok b →
      (∃ first, split crlf b = [first, r.username, r.password, r.line, []]) ∧
        b = crlf.intercalate (split crlf b) ∧ ∀ piece ∈ split crlf b, Clean piece) ∧
    (∀ (r : TCPReply) (b : Bytes), r.marshalText = .ok b →
      (∃ line, b = line ++ crlf ∧ Clean line) ∧ TCPReply.zero.unmarshalText b = .ok r) := by
  constructor
  · intro r b hb
    obtain ⟨hclean, rfl⟩ := request_marshal_iff.mp hb
    have hlines := clean_requestLines unicode hclean
    rw [split_lines hlines (List.cons_ne_nil _ _)]
    exact ⟨⟨r.firstLine unicode, rfl⟩, rfl, hlines⟩
  · intro r b hb
    obtain ⟨hlen, ⟨hcode, htext⟩, rfl⟩ := reply_marshal_iff.mp hb
    have hclean := clean_replyLine hcode htext
    refine ⟨⟨replyLine r, rfl, hclean⟩, ?_⟩
    have hlong := length_replyLine hlen
    rw [reply_unmarshal_iff, trim_line hclean (List.ne_nil_of_length_pos (by omega))]
    exact ⟨hlong, (reply_unmarshal_line hlen).symm⟩

/-- A request to connect whose password is empty, and a reply with a text. -/
theorem marshalText_lines_connect :
    (∃ first, split crlf (lit "1 CONNECT 10.0.0.1 23\r\nalice\r\n\r\n0\r\n") =
        [first, lit "alice", [], lit "0", []]) ∧
      TCPReply.zero.unmarshalText (lit "502 access denied\r\n") =
        .ok ⟨lit "502", lit "access denied"⟩ := by
  obtain ⟨hrequest, hreply⟩ := marshalText_lines .asciiOnly
  constructor
  · exact (hrequest ⟨lit "CONNECT", [], lit "10.0.0.1", lit "23", lit "alice", [], lit "0"⟩ _
      (by decide +kernel)).1
  · exact (hreply ⟨lit "502", lit "access denied"⟩ _ (by decide +kernel)).2

/-- The first digit of a code is the first byte of its text. -/
theorem reply_hasClass {r q : TCPReply} {data : Bytes} (h : r.unmarshalText data = .ok q)
    (digit : UInt8) : q.hasClass digit = (data.head? == some digit) := by
  obtain ⟨hlen, rfl⟩ := reply_unmarshal_iff.mp h
  obtain ⟨rest, hrest⟩ : trimRightSet crlf data <+: data := List.rdropWhile_prefix _ data
  cases hline : trimRightSet crlf data with
  | nil => simp [hline] at hlen
  | cons c line =>
    rw [hline] at hrest hlen
    have hcode : ((c :: line).take 3).length = 3 := List.length_take_of_le hlen
    have hfirst : ((c :: line).take 3).head? = some c := rfl
    rw [TCPReply.hasClass]
    dsimp only
    rw [hcode, hfirst, ← hrest]
    rfl

/-- **The class of a reply is the first byte of its text**, whatever the receiver was: a text is
    accepted, transient or permanent by its first digit, and never two of them. -/
theorem reply_class (r q : TCPReply) (data : Bytes) (h : r.unmarshalText data = .ok q) :
    (q.accepted = true ↔ data.head? = some 0x32) ∧
      (q.transient = true ↔ data.head? = some 0x34) ∧
      (q.permanent = true ↔ data.head? = some 0x35) := by
  have hclass : ∀ digit, q.hasClass digit = true ↔ data.head? = some digit := by
    intro digit
    rw [reply_hasClass h, beq_iff_eq]
  exact ⟨hclass 0x32, hclass 0x34, hclass 0x35⟩

/-- A denial, read over an earlier reply. -/
theorem reply_class_denied :
    let q : TCPReply := ⟨lit "502", lit "access denied"⟩
    TCPReply.unmarshalText ⟨lit "201", lit "ok"⟩ (lit "502 access denied\r\n") = .ok q ∧
      q.accepted = false ∧ q.transient = false ∧ q.permanent = true := by
  intro q
  have hread : TCPReply.unmarshalText ⟨lit "201", lit "ok"⟩ (lit "502 access denied\r\n") = .ok q :=
    by decide +kernel
  obtain ⟨haccepted, htransient, hpermanent⟩ := reply_class _ q _ hread
  refine ⟨hread, ?_, ?_, hpermanent.mpr (by decide)⟩
  · exact Bool.eq_false_iff.mpr fun h => absurd (haccepted.mp h) (by decide)
  · exact Bool.eq_false_iff.mpr fun h => absurd (htransient.mp h) (by decide)

/-! ## Reused receivers -/

/-- The words of the first line of a text. -/
def firstWords (data : Bytes) : List GoString :=
  fields ((split crlf (trimRightSet crlf data)).headD [])

/-- A text whose keyword is one of `types`, with `n` parameters at least. -/
def carries (unicode : Upper) (data : Bytes) (types : List GoString) (n : Nat) : Bool :=
  match firstWords data with
  | _ :: keyword :: params => types.contains (unicode.toUpper keyword) && n ≤ params.length
  | _ => false

theorem Reads.carries_iff {unicode : Upper} {data : Bytes} {m : Parsed} (h : Reads unicode data m)
    (types : List GoString) (n : Nat) :
    carries unicode data types n ↔ m.type ∈ types ∧ n ≤ m.params.length := by
  obtain ⟨first, more, version, keyword, hlines, -, hwords, htype⟩ := h
  have hfirst : firstWords data = version :: keyword :: m.params := by
    rw [firstWords, hlines]
    exact hwords
  simp [carries, hfirst, htype]

/-- An assignment that may not happen hides what was there exactly if it does. -/
theorem getD_eq_iff {c : Prop} [Decidable c] (params : List GoString) (i : Nat) (a b : GoString) :
    (if c then params[i]?.getD a else a) = (if c then params[i]?.getD b else b) ↔
      (c ∧ i + 1 ≤ params.length) ∨ a = b := by
  rw [Nat.add_one_le_iff]
  by_cases hc : c
  · by_cases hi : i < params.length
    · simp [hc, hi]
    · simp [hc, hi]
  · simp [hc]

/-- Two receivers end up the same exactly if they agree where nothing is assigned. -/
theorem Parsed.assign_eq_iff {m : Parsed} {r₁ r₂ : TCPRequest} :
    m.assign r₁ = m.assign r₂ ↔
      ((m.type ∈ [lit "AUTH"] ∧ 1 ≤ m.params.length) ∨ r₁.style = r₂.style) ∧
      ((m.type ∈ [lit "CONNECT", lit "SLIPON", lit "SLIPOFF"] ∧ 1 ≤ m.params.length) ∨
        r₁.destHost = r₂.destHost) ∧
      ((m.type ∈ [lit "CONNECT"] ∧ 2 ≤ m.params.length) ∨ r₁.destPort = r₂.destPort) := by
  simp only [Parsed.assign_eq, TCPRequest.mk.injEq, getD_eq_iff, true_and, and_true]

/-- What the receiver held before shows exactly in the fields that the message does not carry. -/
theorem unmarshalText_receiver_iff (unicode : Upper) (data : Bytes) :
    (∀ r₁ r₂ q₁ q₂ : TCPRequest,
      r₁.unmarshalText unicode data = .ok q₁ → r₂.unmarshalText unicode data = .ok q₂ →
      (q₁ = q₂ ↔
        (carries unicode data [lit "AUTH"] 1 ∨ r₁.style = r₂.style) ∧
        (carries unicode data [lit "CONNECT", lit "SLIPON", lit "SLIPOFF"] 1 ∨
          r₁.destHost = r₂.destHost) ∧
        (carries unicode data [lit "CONNECT"] 2 ∨ r₁.destPort = r₂.destPort))) ∧
    (∀ r₁ r₂ q₁ q₂ : TCPReply,
      r₁.unmarshalText data = .ok q₁ → r₂.unmarshalText data = .ok q₂ →
      (q₁ = q₂ ↔ 3 < (trimRightSet crlf data).length ∨ r₁.text = r₂.text)) := by
  constructor
  · intro r₁ r₂ q₁ q₂ h₁ h₂
    obtain ⟨m, hread, rfl⟩ := request_unmarshal_iff.mp h₁
    obtain ⟨m', hread', rfl⟩ := request_unmarshal_iff.mp h₂
    obtain rfl := hread.unique hread'
    simp only [hread.carries_iff]
    exact Parsed.assign_eq_iff
  · intro r₁ r₂ q₁ q₂ h₁ h₂
    obtain ⟨-, rfl⟩ := reply_unmarshal_iff.mp h₁
    obtain ⟨-, rfl⟩ := reply_unmarshal_iff.mp h₂
    by_cases hlong : 3 < (trimRightSet crlf data).length <;> simp [hlong]

/-- A login into a request that was used to connect, and a bare code into a reply that had a
    text. -/
theorem unmarshalText_receiver_stale :
    let login := lit "1 LOGIN\r\nalice\r\nsecret\r\n0\r\n"
    let used : TCPRequest :=
      ⟨lit "CONNECT", [], lit "10.0.0.1", lit "23", lit "bob", lit "pw", lit "1"⟩
    let denied : TCPReply := ⟨lit "502", lit "access denied"⟩
    TCPRequest.zero.unmarshalText .asciiOnly login =
        .ok ⟨lit "LOGIN", [], [], [], lit "alice", lit "secret", lit "0"⟩ ∧
      used.unmarshalText .asciiOnly login =
        .ok ⟨lit "LOGIN", [], lit "10.0.0.1", lit "23", lit "alice", lit "secret", lit "0"⟩ ∧
      TCPReply.zero.unmarshalText (lit "201\r\n") = .ok ⟨lit "201", []⟩ ∧
      denied.unmarshalText (lit "201\r\n") = .ok ⟨lit "201", lit "access denied"⟩ := by
  decide +kernel

end Legacy
end Proof
end Tacacs
