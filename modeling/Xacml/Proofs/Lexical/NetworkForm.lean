import Mathlib.Data.List.Basic
import Xacml.Network.Address
import Xacml.Proofs.Lexical.Ip
import Xacml.Proofs.Lexical.Numeral
import Xacml.Proofs.Typing.Ending

/-!
# The forms of port ranges, addresses and host names

Each reader comes with the grammar of the texts that it takes and of what they denote.  The
grammars have a switch: a lenient reader takes more than the forms `N`, `N-`, `-N` and `N-M` as
ranges of ports, and does not look at the character that a mask in brackets starts with.

* `PortRange.Form`, `NetworkAddress.Form` and `HostName.Form` are the grammars,
* `PortRange.read_eq_ok_iff`, `NetworkAddress.read_eq_ok_iff` and `HostName.read_eq_ok_iff`: the
  readers are lenient, and take nothing else,
* `PortRange.form_false_iff`: the ranges of ports that only a lenient reader takes.
-/

namespace Xacml

/-! ## Ports -/

namespace PortRange

variable {lenient : Bool} {text suffix : List Char} {port : Nat} {range : PortRange}

/-- Whether a text denotes a port number.  A lenient reader allows for a plus sign. -/
def IsPort (lenient : Bool) (text : List Char) (port : Nat) : Prop :=
  ∃ digits, (text = digits ∨ lenient = true ∧ text = '+' :: digits) ∧ Text.IsNumeral digits ∧
    Nat.ofDigitChars 10 digits 0 = port ∧ port ≤ 65535

/-- The ranges that texts denote.  A lenient reader takes no text, and a hyphen alone, as the range
of all ports. -/
inductive Form (lenient : Bool) : List Char → PortRange → Prop
  | single {text : List Char} {port : Nat} (hport : IsPort lenient text port) :
      Form lenient text ⟨some port, some port⟩
  | above {text : List Char} {port : Nat} (hport : IsPort lenient text port) :
      Form lenient (text ++ ['-']) ⟨some port, none⟩
  | below {text : List Char} {port : Nat} (hport : IsPort lenient text port) :
      Form lenient ('-' :: text) ⟨none, some port⟩
  | between {low high : List Char} {l u : Nat} (hlow : IsPort lenient low l)
      (hhigh : IsPort lenient high u) (hle : l ≤ u) :
      Form lenient (low ++ '-' :: high) ⟨some l, some u⟩
  | empty (hlenient : lenient = true) : Form lenient [] all
  | hyphen (hlenient : lenient = true) : Form lenient ['-'] all

/-- The ports at the end of a name: all of them, or those of a range after a colon. -/
inductive Suffix (lenient : Bool) : List Char → PortRange → Prop
  | absent : Suffix lenient [] all
  | given {text : List Char} {range : PortRange} (hrange : Form lenient text range) :
      Suffix lenient (':' :: text) range

/-! ### Strict forms -/

theorem IsPort.of_strict (h : IsPort false text port) : IsPort lenient text port := by
  rcases h with ⟨digits, htext | ⟨hlenient, -⟩, h⟩
  · exact ⟨digits, .inl htext, h⟩
  · cases hlenient

theorem Form.of_strict (h : Form false text range) : Form lenient text range := by
  cases h with
  | single hport => exact .single hport.of_strict
  | above hport => exact .above hport.of_strict
  | below hport => exact .below hport.of_strict
  | between hlow hhigh hle => exact .between hlow.of_strict hhigh.of_strict hle
  | empty hlenient => cases hlenient
  | hyphen hlenient => cases hlenient

theorem Suffix.of_strict (h : Suffix false suffix range) : Suffix lenient suffix range := by
  cases h with
  | absent => exact .absent
  | given hrange => exact .given hrange.of_strict

theorem IsPort.strict (h : IsPort true text port) (hplus : '+' ∉ text) :
    IsPort false text port := by
  rcases h with ⟨digits, rfl | ⟨-, rfl⟩, h⟩
  · exact ⟨text, .inl rfl, h⟩
  · exact absurd List.mem_cons_self hplus

theorem IsPort.ne_nil (h : IsPort lenient text port) : text ≠ [] := by
  rcases h with ⟨digits, rfl | ⟨-, rfl⟩, h, -⟩
  · exact h.ne_nil
  · exact List.cons_ne_nil _ _

theorem IsPort.plus_not_mem (h : IsPort false text port) : '+' ∉ text := by
  rcases h with ⟨digits, rfl | ⟨hlenient, -⟩, h, -⟩
  · exact h.digits.not_mem (by decide)
  · cases hlenient

theorem IsPort.hyphen_not_mem (h : IsPort lenient text port) : '-' ∉ text := by
  rcases h with ⟨digits, rfl | ⟨-, rfl⟩, h, -⟩
  · exact h.digits.not_mem (by decide)
  · simp [h.digits.not_mem (show '-'.isDigit = false by decide)]

/-- What a lenient reader takes besides the strict forms. -/
theorem form_false_iff :
    Form false text range ↔ Form true text range ∧ '+' ∉ text ∧ text ≠ [] ∧ text ≠ ['-'] := by
  constructor
  · intro h
    refine ⟨h.of_strict, ?_⟩
    cases h with
    | single hport =>
        refine ⟨hport.plus_not_mem, hport.ne_nil, ?_⟩
        rintro rfl
        exact hport.hyphen_not_mem List.mem_cons_self
    | above hport => simp [hport.plus_not_mem, hport.ne_nil]
    | below hport => simp [hport.plus_not_mem, hport.ne_nil]
    | between hlow hhigh hle =>
        have hlow' := hlow.plus_not_mem
        have hhigh' := hhigh.plus_not_mem
        simp [hlow', hhigh', List.append_eq_singleton_iff, hlow.ne_nil]
    | empty hlenient => cases hlenient
    | hyphen hlenient => cases hlenient
  · rintro ⟨h, hplus, hne, hhyphen⟩
    cases h with
    | single hport => exact .single (hport.strict hplus)
    | above hport => exact .above (hport.strict fun h => hplus (List.mem_append_left _ h))
    | below hport => exact .below (hport.strict fun h => hplus (List.mem_cons_of_mem _ h))
    | between hlow hhigh hle =>
        simp only [List.mem_append, List.mem_cons, not_or] at hplus
        exact .between (hlow.strict hplus.1) (hhigh.strict hplus.2.2) hle
    | empty => exact absurd rfl hne
    | hyphen => exact absurd rfl hhyphen

/-! ### Reading -/

theorem readBound_eq_ok_iff {bound : Option Nat} :
    readBound text = .ok bound ↔
      text = [] ∧ bound = none ∨ ∃ port, bound = some port ∧ IsPort true text port := by
  have hport : (∃ port, bound = some port ∧ IsPort true text port) ↔
      ∃ port, bound = some port ∧ Text.unsigned? 65535 text = some port := by
    simp only [IsPort, Text.unsigned?_eq_some_iff, true_and]
  rw [hport, readBound]
  split
  case isTrue hempty =>
    obtain rfl := List.isEmpty_iff.1 hempty
    simp [Text.unsigned?, Text.natural?, eq_comm]
  case isFalse hne =>
    have hne' : text ≠ [] := by simpa using hne
    split
    case h_1 port hread => simp [hne', hread, eq_comm]
    case h_2 hread => simp [hread, hne']

/-- Bounds in order that are read from the parts around a hyphen make up a range. -/
theorem read_append {low high : List Char} {lower upper : Option Nat} (hlow : '-' ∉ low)
    (hlower : readBound low = .ok lower) (hupper : readBound high = .ok upper)
    (hordered : ∀ l ∈ lower, ∀ u ∈ upper, l ≤ u) :
    read (low ++ '-' :: high) = .ok ⟨lower, upper⟩ := by
  rw [read, Text.cut?_append hlow]
  dsimp only
  rw [hlower, hupper]
  rcases lower with _ | l
  · rfl
  · rcases upper with _ | u
    · rfl
    · have hle : ¬u < l := Nat.not_lt.2 (hordered l rfl u rfl)
      simp [Bind.bind, Except.bind, hle, Pure.pure, Except.pure]

theorem read_eq_ok_iff : read text = .ok range ↔ Form true text range := by
  have hbound {text : List Char} {port : Nat} (h : IsPort true text port) :
      readBound text = .ok (some port) :=
    readBound_eq_ok_iff.2 (.inr ⟨port, rfl, h⟩)
  constructor
  · intro h
    rw [read] at h
    split at h
    case h_1 =>
      rcases exists_of_map_eq_ok h with ⟨bound, hread, rfl⟩
      rcases readBound_eq_ok_iff.1 hread with ⟨rfl, rfl⟩ | ⟨port, rfl, hport⟩
      · exact .empty rfl
      · exact .single hport
    case h_2 low high hcut =>
      rcases exists_of_bind_eq_ok h with ⟨lower, hlower, h⟩
      rcases exists_of_bind_eq_ok h with ⟨upper, hupper, h⟩
      obtain rfl := Text.eq_append_of_cut? hcut
      rcases readBound_eq_ok_iff.1 hlower with ⟨rfl, rfl⟩ | ⟨l, rfl, hlow⟩ <;>
        rcases readBound_eq_ok_iff.1 hupper with ⟨rfl, rfl⟩ | ⟨u, rfl, hhigh⟩
      · cases h
        exact .hyphen rfl
      · cases h
        exact .below hhigh
      · cases h
        exact .above hlow
      · dsimp only at h
        split at h
        case isTrue => cases h
        case isFalse hordered =>
          cases h
          exact .between hlow hhigh (Nat.le_of_not_lt hordered)
  · intro h
    cases h with
    | single hport =>
        rw [read, Text.cut?_eq_none hport.hyphen_not_mem]
        simp only [hbound hport, Except.map]
    | above hport =>
        exact read_append hport.hyphen_not_mem (hbound hport) (by rfl) (by simp)
    | below hport =>
        exact read_append List.not_mem_nil (by rfl) (hbound hport) (by simp)
    | between hlow hhigh hle =>
        refine read_append hlow.hyphen_not_mem (hbound hlow) (hbound hhigh) ?_
        rintro _ ⟨⟩ _ ⟨⟩
        exact hle
    | empty => rfl
    | hyphen => rfl

end PortRange

/-! ## Hosts -/

namespace HostName

variable {lenient : Bool} {text host body suffix : List Char} {ports : PortRange} {name : HostName}

/-- A label: ASCII letters, digits and inner hyphens. -/
structure IsLabel (label : List Char) : Prop where
  ne_nil : label ≠ []
  chars : ∀ c ∈ label, c.isAlphanum = true ∨ c = '-'
  head : label.head? ≠ some '-'
  last : label.getLast? ≠ some '-'

/-- Labels with points between them, after `*.` if they are the last ones of a name only. -/
def hostText (wildcard : Bool) (labels : List (List Char)) : List Char :=
  (if wildcard then ['*', '.'] else []) ++ Text.join ['.'] labels

/-- The host names that texts denote. -/
inductive Form (lenient : Bool) : List Char → HostName → Prop
  | mk {suffix : List Char} {ports : PortRange} (wildcard : Bool) (labels : List (List Char))
      (hne : labels ≠ []) (hlabels : ∀ label ∈ labels, IsLabel label)
      (hports : PortRange.Suffix lenient suffix ports) :
      Form lenient (hostText wildcard labels ++ suffix)
        ⟨Text.lowerAscii (hostText wildcard labels), ports⟩

theorem Form.of_strict (h : Form false text name) : Form lenient text name := by
  cases h with
  | mk wildcard labels hne hlabels hports => exact .mk wildcard labels hne hlabels hports.of_strict

/-! ### Reading -/

theorem isLabel_iff {label : List Char} : isLabel label = true ↔ IsLabel label := by
  simp only [isLabel, Bool.and_eq_true, Bool.not_eq_true', List.isEmpty_eq_false_iff,
    List.all_eq_true, Bool.or_eq_true, beq_iff_eq, bne_iff_ne]
  exact ⟨fun ⟨⟨⟨hne, hchars⟩, hhead⟩, hlast⟩ => ⟨hne, hchars, hhead, hlast⟩,
    fun h => ⟨⟨⟨h.ne_nil, h.chars⟩, h.head⟩, h.last⟩⟩

theorem IsLabel.not_mem {label : List Char} (h : IsLabel label) {mark : Char}
    (halpha : mark.isAlphanum = false) (hhyphen : mark ≠ '-') : mark ∉ label := by
  intro hmem
  rcases h.chars mark hmem with h | h
  · simp [halpha] at h
  · exact hhyphen h

/-- Labels do not start with the mark that stands for any first labels. -/
theorem labelsOf_join {labels : List (List Char)} (hlabels : ∀ label ∈ labels, IsLabel label) :
    labelsOf (Text.join ['.'] labels) = Text.join ['.'] labels := by
  unfold labelsOf
  split
  case h_1 rest heq =>
    have hstar : '*' ∈ Text.join ['.'] labels := heq ▸ List.mem_cons_self
    rcases Text.mem_of_mem_join hstar with hpoint | ⟨label, hlabel, hmem⟩
    · exact absurd hpoint (by decide)
    · exact absurd hmem ((hlabels label hlabel).not_mem (by decide) (by decide))
  case h_2 => rfl

theorem splitOn_join_labels {labels : List (List Char)} (hne : labels ≠ [])
    (hlabels : ∀ label ∈ labels, IsLabel label) :
    (Text.join ['.'] labels).splitOn '.' = labels :=
  Text.splitOn_join (fun label hlabel => (hlabels label hlabel).not_mem (by decide) (by decide)) hne

theorem isHost_iff :
    isHost host = true ↔ ∃ wildcard labels, labels ≠ [] ∧ (∀ label ∈ labels, IsLabel label) ∧
      host = hostText wildcard labels := by
  constructor
  · intro h
    simp only [isHost, Bool.and_eq_true, List.all_eq_true, isLabel_iff] at h
    have hjoin := Text.join_splitOn '.' (labelsOf host)
    have hmark : ∃ wildcard : Bool,
        host = (if wildcard then ['*', '.'] else []) ++ labelsOf host := by
      unfold labelsOf
      split
      · exact ⟨true, rfl⟩
      · exact ⟨false, rfl⟩
    rcases hmark with ⟨wildcard, heq⟩
    exact ⟨wildcard, (labelsOf host).splitOn '.', List.splitOn_ne_nil _ _, h.2,
      by rwa [hostText, hjoin]⟩
  · rintro ⟨wildcard, labels, hne, hlabels, rfl⟩
    have hlabelsOf : labelsOf (hostText wildcard labels) = Text.join ['.'] labels := by
      cases wildcard with
      | true => rfl
      | false => exact labelsOf_join hlabels
    have hjoin : Text.join ['.'] labels ≠ [] := by
      intro hnil
      have hsplit := splitOn_join_labels hne hlabels
      rw [hnil] at hsplit
      have hempty : [] ∈ labels := hsplit ▸ List.mem_cons_self
      exact (hlabels [] hempty).ne_nil rfl
    simp only [isHost, hlabelsOf, splitOn_join_labels hne hlabels, Bool.and_eq_true,
      List.all_eq_true, isLabel_iff]
    exact ⟨by simpa using hjoin, hlabels⟩

/-- The characters of a host. -/
theorem mem_of_isHost {c : Char} (h : isHost host = true) (hc : c ∈ host) :
    c.isAlphanum = true ∨ c ∈ ['-', '.', '*'] := by
  rcases isHost_iff.1 h with ⟨wildcard, labels, -, hlabels, rfl⟩
  rcases List.mem_append.1 hc with hc | hc
  · have hmarks : c ∈ ['*', '.'] := by
      split at hc
      · exact hc
      · cases hc
    refine .inr ?_
    revert hmarks
    simp only [List.mem_cons, List.not_mem_nil, or_false]
    tauto
  · rcases Text.mem_of_mem_join hc with rfl | ⟨label, hlabel, hmem⟩
    · exact .inr (by decide)
    · exact ((hlabels label hlabel).chars c hmem).imp_right fun heq => by simp [heq]

theorem not_mem_of_isHost (h : isHost host = true) : ':' ∉ host := by
  intro hmem
  rcases mem_of_isHost h hmem with h | h <;> revert h <;> decide

/-- A text is parted where its ports begin. -/
theorem splitPorts_eq_ok_iff :
    splitPorts text = .ok (body, ports) ↔
      ':' ∉ body ∧ ∃ suffix, text = body ++ suffix ∧ PortRange.Suffix true suffix ports := by
  constructor
  · intro h
    rw [splitPorts] at h
    split at h
    case h_1 before after hcut =>
      rcases exists_of_map_eq_ok h with ⟨range, hread, heq⟩
      cases heq
      exact ⟨Text.not_mem_of_cut? hcut, ':' :: after, Text.eq_append_of_cut? hcut,
        .given (PortRange.read_eq_ok_iff.1 hread)⟩
    case h_2 hcut =>
      cases h
      exact ⟨Text.not_mem_of_cut?_eq_none hcut, [], by simp, .absent⟩
  · rintro ⟨hcolon, suffix, rfl, hsuffix⟩
    cases hsuffix with
    | absent => rw [List.append_nil, splitPorts, Text.cut?_eq_none hcolon]
    | given hrange =>
        rw [splitPorts, Text.cut?_append hcolon]
        simp only [PortRange.read_eq_ok_iff.2 hrange, Except.map]

theorem read_eq_ok_iff : read text = .ok name ↔ Form true text name := by
  constructor
  · intro h
    rw [read] at h
    split at h
    case h_1 => cases h
    case h_2 host ports hsplit =>
      rcases splitPorts_eq_ok_iff.1 hsplit with ⟨-, suffix, rfl, hports⟩
      split at h
      case isTrue hhost =>
        cases h
        rcases isHost_iff.1 hhost with ⟨wildcard, labels, hne, hlabels, rfl⟩
        exact .mk wildcard labels hne hlabels hports
      case isFalse => cases h
  · rintro ⟨wildcard, labels, hne, hlabels, hports⟩
    have hhost := isHost_iff.2 ⟨wildcard, labels, hne, hlabels, rfl⟩
    rw [read, splitPorts_eq_ok_iff.2 ⟨not_mem_of_isHost hhost, _, rfl, hports⟩]
    exact if_pos hhost

end HostName

/-! ## Network addresses -/

namespace NetworkAddress

variable {lenient : Bool} {text rest : List Char} {address : NetworkAddress}

/-- The mask of an address of four octets: none, or octets after a slash. -/
inductive OctetMask : List Char → Option Ip.V4 → Prop
  | absent : OctetMask [] none
  | given {text : List Char} {mask : Ip.V4} (hmask : Ip.V4.read? text = some mask) :
      OctetMask ('/' :: text) (some mask)

/-- Whether a mask in brackets may start with a character.  A lenient reader does not look at it, as
long as it takes one octet and is not the closing bracket. -/
def Opens (lenient : Bool) (opening : Char) : Prop :=
  opening = '[' ∨ lenient = true ∧ opening ≠ ']' ∧ opening.utf8Size = 1

/-- The mask of an address of eight groups: none, or groups in brackets after a slash. -/
inductive GroupMask (lenient : Bool) : List Char → Option Ip.V6 → Prop
  | absent : GroupMask lenient [] none
  | given {opening : Char} {text : List Char} {mask : Ip.V6} (hopening : Opens lenient opening)
      (hmask : Ip.V6.read? text = some mask) :
      GroupMask lenient ('/' :: opening :: (text ++ [']'])) (some mask)

/-- The addresses that texts denote. -/
inductive Form (lenient : Bool) : List Char → NetworkAddress → Prop
  | octets {text maskText suffix : List Char} {ip : Ip.V4} {mask : Option Ip.V4}
      {ports : PortRange}
      (hip : Ip.V4.read? text = some ip) (hmask : OctetMask maskText mask)
      (hports : PortRange.Suffix lenient suffix ports) :
      Form lenient (text ++ maskText ++ suffix) ⟨.v4 ip, mask.map .v4, ports⟩
  | groups {text maskText suffix : List Char} {ip : Ip.V6} {mask : Option Ip.V6}
      {ports : PortRange}
      (hip : Ip.V6.read? text = some ip) (hmask : GroupMask lenient maskText mask)
      (hports : PortRange.Suffix lenient suffix ports) :
      Form lenient ('[' :: text ++ ']' :: maskText ++ suffix) ⟨.v6 ip, mask.map .v6, ports⟩

theorem Form.of_strict (h : Form false text address) : Form lenient text address := by
  cases h with
  | octets hip hmask hports => exact .octets hip hmask hports.of_strict
  | groups hip hmask hports =>
      refine .groups hip ?_ hports.of_strict
      cases hmask with
      | absent => exact .absent
      | given hopening hmask =>
          rcases hopening with hopening | ⟨hlenient, -⟩
          · exact .given (.inl hopening) hmask
          · cases hlenient

/-! ### Four octets -/

theorem readOctets_eq_ok_iff {ip : Ip} :
    readOctets text = .ok ip ↔ ∃ v4, ip = .v4 v4 ∧ Ip.V4.read? text = some v4 := by
  rw [readOctets]
  cases Ip.V4.read? text <;> simp [eq_comm]

/-- Octets contain neither a colon nor a slash. -/
theorem not_mem_octets {ip : Ip.V4} {mark : Char} (h : Ip.V4.read? text = some ip)
    (hmark : mark.isDigit = false) (hpoint : mark ≠ '.') : mark ∉ text := by
  intro hmem
  rcases Ip.V4.isChar_of_read? h mark hmem with h | h
  · simp [hmark] at h
  · exact hpoint h

theorem form_of_readV4 (h : readV4 text = .ok address) : Form true text address := by
  rcases exists_of_bind_eq_ok h with ⟨⟨body, ports⟩, hsplit, hbody⟩
  dsimp only at hbody
  rcases HostName.splitPorts_eq_ok_iff.1 (eq_ok_of_mapError hsplit) with ⟨-, suffix, rfl, hports⟩
  split at hbody
  case h_1 octets maskText hcut =>
    rcases exists_of_bind_eq_ok hbody with ⟨_, hreadIp, hrest⟩
    rcases exists_of_bind_eq_ok hrest with ⟨_, hreadMask, hend⟩
    rcases readOctets_eq_ok_iff.1 hreadIp with ⟨ip, rfl, hip⟩
    rcases readOctets_eq_ok_iff.1 hreadMask with ⟨mask, rfl, hmask⟩
    obtain rfl := Text.eq_append_of_cut? hcut
    cases hend
    exact .octets hip (.given hmask) hports
  case h_2 hcut =>
    rcases exists_of_bind_eq_ok hbody with ⟨_, hreadIp, hend⟩
    rcases readOctets_eq_ok_iff.1 hreadIp with ⟨ip, rfl, hip⟩
    cases hend
    have hform : Form true (body ++ [] ++ suffix) ⟨.v4 ip, none, ports⟩ :=
      .octets hip .absent hports
    rwa [List.append_nil] at hform

theorem readV4_append {octets maskText suffix : List Char} {ip : Ip.V4} {mask : Option Ip.V4}
    {ports : PortRange} (hip : Ip.V4.read? octets = some ip) (hmask : OctetMask maskText mask)
    (hports : PortRange.Suffix true suffix ports) :
    readV4 (octets ++ maskText ++ suffix) = .ok ⟨.v4 ip, mask.map .v4, ports⟩ := by
  have hcolon : ':' ∉ octets := not_mem_octets hip (by decide) (by decide)
  have hslash : '/' ∉ octets := not_mem_octets hip (by decide) (by decide)
  have hread : readOctets octets = .ok (.v4 ip) := readOctets_eq_ok_iff.2 ⟨ip, rfl, hip⟩
  cases hmask with
  | absent =>
      have hsplit := HostName.splitPorts_eq_ok_iff.2 ⟨hcolon, suffix, rfl, hports⟩
      rw [List.append_nil, readV4, hsplit]
      simp only [Except.mapError, Bind.bind, Except.bind, Text.cut?_eq_none hslash, hread]
      rfl
  | @given maskText mask hmask =>
      have hcolon' : ':' ∉ maskText := not_mem_octets hmask (by decide) (by decide)
      have hbody : ':' ∉ octets ++ '/' :: maskText := by simp [hcolon, hcolon']
      have hsplit := HostName.splitPorts_eq_ok_iff.2 ⟨hbody, suffix, rfl, hports⟩
      have hread' : readOctets maskText = .ok (.v4 mask) :=
        readOctets_eq_ok_iff.2 ⟨mask, rfl, hmask⟩
      rw [readV4, hsplit]
      simp only [Except.mapError, Bind.bind, Except.bind, Text.cut?_append hslash, hread, hread']
      rfl

/-! ### Eight groups -/

/-- Groups contain no closing bracket. -/
theorem not_mem_groups {ip : Ip.V6} (h : Ip.V6.read? text = some ip) : ']' ∉ text := by
  intro hmem
  rcases Ip.V6.isChar_of_read? h ']' hmem with h | h | h <;> revert h <;> decide

/-- The first character, which should be the opening bracket, is skipped. -/
theorem readBracketed_eq_ok_iff {ip : Ip.V6} :
    readBracketed text = .ok (ip, rest) ↔
      ∃ opening inside, text = opening :: (inside ++ ']' :: rest) ∧ opening ≠ ']' ∧
        opening.utf8Size = 1 ∧ Ip.V6.read? inside = some ip := by
  constructor
  · intro h
    rw [readBracketed] at h
    split at h
    case h_1 => cases h
    case h_2 before after hcut =>
      simp only at h
      split at h
      case h_1 hread =>
        cases h
        have hbracket := Text.not_mem_of_cut? hcut
        obtain rfl := Text.eq_append_of_cut? hcut
        have hnil : Ip.V6.read? [] = none := by decide
        unfold insideBrackets at hread
        split at hread
        case h_1 opening inside =>
          split at hread
          case isTrue hsize =>
            simp only [List.mem_cons, not_or] at hbracket
            exact ⟨opening, inside, rfl, Ne.symm hbracket.1, hsize, hread⟩
          case isFalse =>
            rw [hnil] at hread
            cases hread
        case h_2 =>
          rw [hnil] at hread
          cases hread
      case h_2 => cases h
  · rintro ⟨opening, inside, rfl, hopening, hsize, hread⟩
    have hbefore : ']' ∉ opening :: inside := by
      simp [Ne.symm hopening, not_mem_groups hread]
    rw [readBracketed, ← List.cons_append, Text.cut?_append hbefore]
    simp only [insideBrackets, if_pos hsize, hread]

theorem readPortsEnd_eq_ok_iff {ports : PortRange} :
    readPortsEnd text = .ok ports ↔ PortRange.Suffix true text ports := by
  constructor
  · intro h
    unfold readPortsEnd at h
    split at h
    case h_1 => exact .given (PortRange.read_eq_ok_iff.1 (eq_ok_of_mapError h))
    case h_2 =>
      cases h
      exact .absent
    case h_3 => cases h
  · intro h
    cases h with
    | absent => rfl
    | given hrange => rw [readPortsEnd, PortRange.read_eq_ok_iff.2 hrange, Except.mapError]

theorem groupMask_of_readMask {mask : Option Ip.V6} (h : readMask text = .ok (mask, rest)) :
    ∃ maskText, text = maskText ++ rest ∧ GroupMask true maskText mask := by
  unfold readMask at h
  split at h
  case h_1 more =>
    rcases exists_of_map_eq_ok h with ⟨⟨ip, after⟩, hread, heq⟩
    rcases readBracketed_eq_ok_iff.1 hread with ⟨opening, inside, rfl, hopening, hsize, hip⟩
    cases heq
    exact ⟨_, by simp, .given (.inr ⟨rfl, hopening, hsize⟩) hip⟩
  case h_2 =>
    cases h
    exact ⟨[], rfl, .absent⟩

/-- A mask may be followed by ports only, so that none is read where none stands. -/
theorem readMask_append {mask : Option Ip.V6} {maskText suffix : List Char} {ports : PortRange}
    (hmask : GroupMask true maskText mask) (hports : PortRange.Suffix true suffix ports) :
    readMask (maskText ++ suffix) = .ok (mask, suffix) := by
  cases hmask with
  | absent => cases hports <;> rfl
  | @given opening text mask hopening hmask =>
      have hopening' : opening ≠ ']' ∧ opening.utf8Size = 1 := by
        rcases hopening with rfl | ⟨-, h⟩
        · decide
        · exact h
      have hread : readBracketed (opening :: (text ++ [']']) ++ suffix) = .ok (mask, suffix) :=
        readBracketed_eq_ok_iff.2
          ⟨opening, text, by simp, hopening'.1, hopening'.2, hmask⟩
      rw [List.cons_append, readMask, hread, Except.map]

theorem form_of_readV6 (hbracket : text.head? = some '[') (h : readV6 text = .ok address) :
    Form true text address := by
  rcases exists_of_bind_eq_ok h with ⟨⟨ip, afterIp⟩, hreadIp, hrest⟩
  rcases exists_of_bind_eq_ok hrest with ⟨⟨mask, afterMask⟩, hreadMask, hrest'⟩
  rcases exists_of_bind_eq_ok hrest' with ⟨ports, hreadPorts, hend⟩
  cases hend
  rcases readBracketed_eq_ok_iff.1 hreadIp with ⟨opening, inside, rfl, -, -, hip⟩
  rcases groupMask_of_readMask hreadMask with ⟨maskText, rfl, hmask⟩
  obtain rfl : opening = '[' := by simpa using hbracket
  have hform := Form.groups hip hmask (readPortsEnd_eq_ok_iff.1 hreadPorts)
  simpa using hform

theorem readV6_append {inside maskText suffix : List Char} {ip : Ip.V6} {mask : Option Ip.V6}
    {ports : PortRange} (hip : Ip.V6.read? inside = some ip)
    (hmask : GroupMask true maskText mask) (hports : PortRange.Suffix true suffix ports) :
    readV6 ('[' :: inside ++ ']' :: maskText ++ suffix) = .ok ⟨.v6 ip, mask.map .v6, ports⟩ := by
  have hread : readBracketed ('[' :: inside ++ ']' :: maskText ++ suffix) =
      .ok (ip, maskText ++ suffix) :=
    readBracketed_eq_ok_iff.2 ⟨'[', inside, by simp, by decide, by decide, hip⟩
  rw [readV6, hread]
  simp only [Bind.bind, Except.bind, readMask_append hmask hports,
    readPortsEnd_eq_ok_iff.2 hports]
  rfl

/-! ### Addresses of either kind -/

theorem read_eq_ok_iff : read text = .ok address ↔ Form true text address := by
  constructor
  · intro h
    unfold read at h
    split at h
    · exact form_of_readV6 rfl h
    · exact form_of_readV4 h
  · intro h
    cases h with
    | @octets octets maskText suffix ip mask ports hip hmask hports =>
        unfold read
        split
        case h_1 more heq =>
          -- Octets do not start with a bracket, and there are some.
          cases octets with
          | nil => cases hip
          | cons c octets =>
              cases heq
              exact absurd List.mem_cons_self (not_mem_octets hip (by decide) (by decide))
        case h_2 => exact readV4_append hip hmask hports
    | groups hip hmask hports => exact readV6_append hip hmask hports

end NetworkAddress

end Xacml
