import Xacml.Proofs.Lexical.NetworkForm

/-!
# Reading hosts and network addresses back

What is written has a strict form, apart from the range of all ports, which is no text where it may
be left out.

* `PortRange.read_write`: bounds up to 65535 in order read back, open or not,
* `HostName.read_write`: a host in lower case reads back with its ports,
* `NetworkAddress.read_write`: an address reads back with its mask and its ports,
* `network_forms_exact`: which texts are read, and that what was read can be told apart by its
  canonical text.

Each comes with the lemma that what was read is valid, and with what its text is made of.
-/

namespace Xacml

/-! ## Ports -/

namespace PortRange

variable {lenient : Bool} {range : PortRange} {text suffix : List Char}

/-- Whether the bounds of a range are ports in order. -/
structure IsValid (range : PortRange) : Prop where
  lower : ∀ port ∈ range.lower, port ≤ 65535
  upper : ∀ port ∈ range.upper, port ≤ 65535
  ordered : ∀ l ∈ range.lower, ∀ u ∈ range.upper, l ≤ u

theorem isPort_decimal {port : Nat} (h : port ≤ 65535) : IsPort lenient (Text.decimal port) port :=
  ⟨_, .inl rfl, Text.isNumeral_decimal port, Nat.ofDigitChars_ten_toDigits, h⟩

/-- A valid range is written in a strict form, unless it is that of all ports. -/
theorem form_write (h : range.IsValid) (hall : lenient = true ∨ range ≠ all) :
    Form lenient range.write range := by
  have hport {bound : Option Nat} (hbound : ∀ port ∈ bound, port ≤ 65535) {port : Nat}
      (hmem : bound = some port) : IsPort lenient (Text.decimal port) port :=
    isPort_decimal (hbound port hmem)
  rcases range with ⟨_ | l, _ | u⟩
  · rcases hall with hlenient | hne
    · exact .hyphen hlenient
    · exact absurd rfl hne
  · exact .below (hport h.upper rfl)
  · exact .above (hport h.lower rfl)
  · simp only [write]
    by_cases heq : l = u
    · subst heq
      rw [if_pos rfl]
      exact .single (hport h.lower rfl)
    · rw [if_neg heq]
      exact .between (hport h.lower rfl) (hport h.upper rfl) (h.ordered l rfl u rfl)

/-- A valid range reads back. -/
theorem read_write (h : range.IsValid) : read range.write = .ok range :=
  read_eq_ok_iff.2 (form_write h (.inl rfl))

theorem isValid_all : all.IsValid :=
  ⟨by simp [all], by simp [all], by simp [all]⟩

theorem IsPort.le {port : Nat} (h : IsPort lenient text port) : port ≤ 65535 := by
  rcases h with ⟨digits, -, -, -, hle⟩
  exact hle

theorem Form.isValid (h : Form lenient text range) : range.IsValid := by
  cases h with
  | single hport => exact ⟨by simpa using hport.le, by simpa using hport.le, by simp⟩
  | above hport => exact ⟨by simpa using hport.le, by simp, by simp⟩
  | below hport => exact ⟨by simp, by simpa using hport.le, by simp⟩
  | between hlow hhigh hle =>
      exact ⟨by simpa using hlow.le, by simpa using hhigh.le, by simpa using hle⟩
  | empty => exact isValid_all
  | hyphen => exact isValid_all

theorem isValid_of_read (h : read text = .ok range) : range.IsValid :=
  (read_eq_ok_iff.1 h).isValid

theorem Suffix.isValid (h : Suffix lenient suffix range) : range.IsValid := by
  cases h with
  | absent => exact isValid_all
  | given hrange => exact hrange.isValid

theorem isUnbounded_iff : range.isUnbounded = true ↔ range = all := by
  rcases range with ⟨_ | l, _ | u⟩ <;> simp [isUnbounded, all]

/-- The ports at the end of a name are written in a strict form. -/
theorem suffix_writeAfterColon (h : range.IsValid) :
    Suffix lenient range.writeAfterColon range := by
  rw [writeAfterColon]
  split
  case isTrue hall =>
    rw [isUnbounded_iff.1 hall]
    exact .absent
  case isFalse hall => exact .given (form_write h (.inr (mt isUnbounded_iff.2 hall)))

theorem mem_write {c : Char} (h : c ∈ range.write) : c.isDigit = true ∨ c ∈ ['-'] := by
  have hdecimal {n : Nat} (hc : c ∈ Text.decimal n) : c.isDigit = true ∨ c ∈ ['-'] :=
    .inl (Text.allDigits_decimal n c hc)
  have hbound {bound : Option Nat} (hc : c ∈ writeBound bound) :
      c.isDigit = true ∨ c ∈ ['-'] := by
    cases bound with
    | none => cases hc
    | some port => exact hdecimal hc
  unfold write at h
  split at h
  case h_1 =>
    split at h
    · exact hdecimal h
    · rcases List.mem_append.1 h with h | h
      · exact hdecimal h
      · rcases List.mem_cons.1 h with h | h
        · exact .inr (by simp [h])
        · exact hdecimal h
  case h_2 =>
    rcases List.mem_append.1 h with h | h
    · exact hbound h
    · rcases List.mem_cons.1 h with h | h
      · exact .inr (by simp [h])
      · exact hbound h

theorem mem_writeAfterColon {c : Char} (h : c ∈ range.writeAfterColon) :
    c.isDigit = true ∨ c ∈ [':', '-'] := by
  rw [writeAfterColon] at h
  split at h
  · cases h
  · rcases List.mem_cons.1 h with h | h
    · exact .inr (by simp [h])
    · exact (mem_write h).imp_right (List.mem_cons_of_mem _)

end PortRange

/-! ## Hosts -/

namespace HostName

variable {lenient : Bool} {name : HostName} {text host : List Char}

theorem IsLabel.lowerAscii {label : List Char} (h : IsLabel label) :
    IsLabel (Text.lowerAscii label) := by
  have hend {end? : Option Char} (hend : end? ≠ some '-') : end?.map Char.toLower ≠ some '-' := by
    cases end? with
    | none => exact hend
    | some c =>
        intro heq
        exact hend (congrArg some ((Text.toLower_eq_iff (by decide)).1 (Option.some.inj heq)))
  refine ⟨by simpa [Text.lowerAscii] using h.ne_nil, ?_, ?_, ?_⟩
  · intro c hc
    rcases List.mem_map.1 hc with ⟨d, hd, rfl⟩
    rcases h.chars d hd with halpha | rfl
    · exact .inl (Text.isAlphanum_toLower halpha)
    · exact .inr rfl
  · rw [Text.lowerAscii, List.head?_map]
    exact hend h.head
  · rw [Text.lowerAscii, List.getLast?_map]
    exact hend h.last

theorem lowerAscii_hostText {wildcard : Bool} {labels : List (List Char)} :
    Text.lowerAscii (hostText wildcard labels) =
      hostText wildcard (labels.map Text.lowerAscii) := by
  rw [hostText, hostText, ← Text.lowerAscii_join (by decide), Text.lowerAscii, List.map_append]
  cases wildcard <;> rfl

/-- A host stays one in lower case. -/
theorem isHost_lowerAscii (h : isHost host = true) : isHost (Text.lowerAscii host) = true := by
  rcases isHost_iff.1 h with ⟨wildcard, labels, hne, hlabels, rfl⟩
  rw [lowerAscii_hostText]
  refine isHost_iff.2 ⟨wildcard, _, by simpa using hne, fun label hlabel => ?_, rfl⟩
  rcases List.mem_map.1 hlabel with ⟨label, hmem, rfl⟩
  exact (hlabels label hmem).lowerAscii

/-- Whether a host name is a host in lower case with a valid range of ports. -/
structure IsValid (name : HostName) : Prop where
  isHost : isHost name.host = true
  lower : Text.lowerAscii name.host = name.host
  ports : name.ports.IsValid

/-- A valid host name is written in a strict form. -/
theorem form_write (h : name.IsValid) : Form lenient name.write name := by
  rcases isHost_iff.1 h.isHost with ⟨wildcard, labels, hne, hlabels, heq⟩
  have hports : PortRange.Suffix lenient name.ports.writeAfterColon name.ports :=
    PortRange.suffix_writeAfterColon h.ports
  have hform := Form.mk wildcard labels hne hlabels hports
  rwa [← heq, h.lower] at hform

/-- A valid host name reads back. -/
theorem read_write (h : name.IsValid) : read name.write = .ok name :=
  read_eq_ok_iff.2 (form_write h)

theorem Form.isValid (h : Form lenient text name) : name.IsValid := by
  cases h with
  | mk wildcard labels hne hlabels hports =>
      exact ⟨isHost_lowerAscii (isHost_iff.2 ⟨wildcard, labels, hne, hlabels, rfl⟩),
        Text.lowerAscii_lowerAscii _, hports.isValid⟩

theorem isValid_of_read (h : read text = .ok name) : name.IsValid :=
  (read_eq_ok_iff.1 h).isValid

theorem isBlank_of_mem_write {c : Char} (h : name.IsValid) (hc : c ∈ name.write) :
    Text.isBlank c = false := by
  rcases List.mem_append.1 hc with hc | hc
  · rcases mem_of_isHost h.isHost hc with halpha | hmem
    · exact Text.isBlank_of_isAlphanum halpha
    · exact Text.isBlank_of_isDigit_or_mem (by decide) (.inr hmem)
  · exact Text.isBlank_of_isDigit_or_mem (by decide) (PortRange.mem_writeAfterColon hc)

end HostName

/-! ## Network addresses -/

namespace NetworkAddress

variable {lenient : Bool} {address : NetworkAddress} {text : List Char}

/-- A valid address has a valid mask of its own kind, if any, and a valid range of ports. -/
inductive IsValid : NetworkAddress → Prop
  | v4 {ip : Ip.V4} {mask : Option Ip.V4} {ports : PortRange} (hip : ip.IsValid)
      (hmask : ∀ v4 ∈ mask, v4.IsValid) (hports : ports.IsValid) :
      IsValid ⟨.v4 ip, mask.map .v4, ports⟩
  | v6 {ip : Ip.V6} {mask : Option Ip.V6} {ports : PortRange} (hip : ip.IsValid)
      (hmask : ∀ v6 ∈ mask, v6.IsValid) (hports : ports.IsValid) :
      IsValid ⟨.v6 ip, mask.map .v6, ports⟩

/-- A valid address is written in a strict form. -/
theorem form_write (h : address.IsValid) : Form lenient address.write address := by
  cases h with
  | @v4 ip mask ports hip hmask hports =>
      have hmaskForm : OctetMask (writeMask (mask.map .v4)) mask := by
        cases mask with
        | none => exact .absent
        | some v4 => exact .given (Ip.V4.read?_write (hmask v4 rfl))
      exact .octets (Ip.V4.read?_write hip) hmaskForm (PortRange.suffix_writeAfterColon hports)
  | @v6 ip mask ports hip hmask hports =>
      have hmaskForm : GroupMask lenient (writeMask (mask.map .v6)) mask := by
        cases mask with
        | none => exact .absent
        | some v6 => exact .given (.inl rfl) (Ip.V6.read?_write (hmask v6 rfl))
      have hform := Form.groups (Ip.V6.read?_write hip) hmaskForm
        (PortRange.suffix_writeAfterColon hports)
      simpa [write, writeIp] using hform

/-- A valid address reads back. -/
theorem read_write (h : address.IsValid) : read address.write = .ok address :=
  read_eq_ok_iff.2 (form_write h)

theorem Form.isValid (h : Form lenient text address) : address.IsValid := by
  cases h with
  | octets hip hmask hports =>
      refine .v4 (Ip.V4.isValid_of_read? hip) ?_ hports.isValid
      cases hmask with
      | absent => simp
      | given hmask => simpa using Ip.V4.isValid_of_read? hmask
  | groups hip hmask hports =>
      refine .v6 (Ip.V6.isValid_of_read? hip) ?_ hports.isValid
      cases hmask with
      | absent => simp
      | given hopening hmask => simpa using Ip.V6.isValid_of_read? hmask

theorem isValid_of_read (h : read text = .ok address) : address.IsValid :=
  (read_eq_ok_iff.1 h).isValid

theorem isBlank_of_mem_write {c : Char} (hc : c ∈ address.write) : Text.isBlank c = false := by
  have hwriteIp {ip : Ip} (h : c ∈ writeIp ip) : Text.isBlank c = false := by
    cases ip with
    | v4 ip =>
        refine Text.isBlank_of_isDigit_or_mem (show (['.'].all fun c => !Text.isBlank c) = true
          by decide) ?_
        exact (Ip.V4.mem_write h).imp_right fun heq => by simp [heq]
    | v6 ip =>
        rw [writeIp, List.cons_append, List.mem_cons, List.mem_append, List.mem_singleton] at h
        rcases h with rfl | h | rfl
        · decide
        · rcases Ip.V6.mem_write h with h | rfl | rfl
          · exact Ip.V6.isBlank_of_isHex h
          · decide
          · decide
        · decide
  rcases List.mem_append.1 hc with hc | hc
  · rcases List.mem_append.1 hc with hc | hc
    · exact hwriteIp hc
    · cases hmask : address.mask with
      | none =>
          rw [hmask] at hc
          cases hc
      | some mask =>
          rw [hmask, writeMask] at hc
          rcases List.mem_cons.1 hc with rfl | hc
          · decide
          · exact hwriteIp hc
  · exact Text.isBlank_of_isDigit_or_mem (by decide) (PortRange.mem_writeAfterColon hc)

end NetworkAddress

/-! ## Exactness -/

/-- What reads back is told apart by its text. -/
theorem eq_iff_of_read_back {α ε : Type} {read : List Char → Except ε α} {write : α → List Char}
    {a b : α} (ha : read (write a) = .ok a) (hb : read (write b) = .ok b) :
    a = b ↔ write a = write b := by
  constructor
  · rintro rfl
    rfl
  · intro heq
    rw [heq, hb] at ha
    exact (Except.ok.inj ha).symm

/-- The readers of port ranges, network addresses and host names take exactly the texts of the
lenient grammars, and give what these denote.  The strict forms are among them.  A range that is
not of a strict form has a plus sign, or no text at all, or is a hyphen alone.  What was read can
be told apart by its canonical text. -/
theorem network_forms_exact (text : List Char) :
    (∀ range, PortRange.read text = .ok range ↔ PortRange.Form true text range) ∧
    (∀ address, NetworkAddress.read text = .ok address ↔
      NetworkAddress.Form true text address) ∧
    (∀ name, HostName.read text = .ok name ↔ HostName.Form true text name) ∧
    (∀ range, PortRange.Form false text range ↔
      PortRange.Form true text range ∧ '+' ∉ text ∧ text ≠ [] ∧ text ≠ ['-']) ∧
    (∀ address, NetworkAddress.Form false text address → NetworkAddress.Form true text address) ∧
    (∀ name, HostName.Form false text name → HostName.Form true text name) ∧
    ∀ other,
      (∀ range range', PortRange.read text = .ok range → PortRange.read other = .ok range' →
        (range = range' ↔ range.write = range'.write)) ∧
      (∀ address address', NetworkAddress.read text = .ok address →
        NetworkAddress.read other = .ok address' →
          (address = address' ↔ address.write = address'.write)) ∧
      ∀ name name', HostName.read text = .ok name → HostName.read other = .ok name' →
        (name = name' ↔ name.write = name'.write) := by
  refine ⟨fun _ => PortRange.read_eq_ok_iff, fun _ => NetworkAddress.read_eq_ok_iff,
    fun _ => HostName.read_eq_ok_iff, fun _ => PortRange.form_false_iff, fun _ h => h.of_strict,
    fun _ h => h.of_strict, fun other => ⟨?_, ?_, ?_⟩⟩
  · intro range range' h h'
    exact eq_iff_of_read_back (PortRange.read_write (PortRange.isValid_of_read h))
      (PortRange.read_write (PortRange.isValid_of_read h'))
  · intro address address' h h'
    exact eq_iff_of_read_back (NetworkAddress.read_write (NetworkAddress.isValid_of_read h))
      (NetworkAddress.read_write (NetworkAddress.isValid_of_read h'))
  · intro name name' h h'
    exact eq_iff_of_read_back (HostName.read_write (HostName.isValid_of_read h))
      (HostName.read_write (HostName.isValid_of_read h'))

/-- A mask that starts with a parenthesis, and a port with a plus sign, are read as well. -/
theorem network_forms_exact_parenthesis :
    let address : NetworkAddress :=
      ⟨.v6 ⟨[0, 0, 0, 0, 0, 0, 0, 1]⟩, some (.v6 ⟨[0xFFFF, 0, 0, 0, 0, 0, 0, 0]⟩),
        ⟨some 80, some 80⟩⟩
    NetworkAddress.read "[::1]/(ffff::]:+80".toList = .ok address ∧
      NetworkAddress.read "[::1]/[ffff::]:80".toList = .ok address ∧
      (address = address ↔ address.write = address.write) := by
  intro address
  have hlenient : NetworkAddress.read "[::1]/(ffff::]:+80".toList = .ok address := by
    decide +kernel
  have hstrict : NetworkAddress.read "[::1]/[ffff::]:80".toList = .ok address := by
    decide +kernel
  exact ⟨hlenient, hstrict,
    ((network_forms_exact _).2.2.2.2.2.2 _).2.1 address address hlenient hstrict⟩

end Xacml
