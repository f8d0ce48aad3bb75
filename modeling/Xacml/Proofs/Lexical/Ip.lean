import Mathlib.Data.List.TakeWhile
import Xacml.Network.Ip
import Xacml.Proofs.Lexical.Text

/-!
# Reading internet addresses back

* `Ip.V4.read?_write` and `Ip.V6.read?_write`: the text of a valid address reads back as the
  address, also where a double colon stands for its longest run of zeros,
* `Ip.V4.isValid_of_read?` and `Ip.V6.isValid_of_read?`: what was read is a valid address,
* `Ip.V4.isChar_of_read?` and `Ip.V6.isChar_of_read?`: the characters of a text that is read.
-/

namespace Xacml
namespace Ip

/-! ## Characters -/

/-- Whether the rest of a text is left when characters with a property are taken off it. -/
def Leaves (p : Char → Prop) (text rest : List Char) : Prop :=
  ∃ front, text = front ++ rest ∧ ∀ c ∈ front, p c

namespace Leaves

variable {p q : Char → Prop} {text middle rest : List Char}

theorem refl (text : List Char) : Leaves p text text :=
  ⟨[], rfl, by simp⟩

theorem trans (h : Leaves p text middle) (h' : Leaves p middle rest) : Leaves p text rest := by
  rcases h with ⟨front, rfl, hfront⟩
  rcases h' with ⟨more, rfl, hmore⟩
  exact ⟨front ++ more, by simp, fun c hc => (List.mem_append.1 hc).elim (hfront c) (hmore c)⟩

theorem cons {c : Char} (hc : p c) (h : Leaves p text rest) : Leaves p (c :: text) rest := by
  rcases h with ⟨front, rfl, hfront⟩
  exact ⟨c :: front, rfl, List.forall_mem_cons.2 ⟨hc, hfront⟩⟩

theorem mono (hpq : ∀ c, p c → q c) (h : Leaves p text rest) : Leaves q text rest := by
  rcases h with ⟨front, rfl, hfront⟩
  exact ⟨front, rfl, fun c hc => hpq c (hfront c hc)⟩

/-- A run of characters is taken off. -/
theorem dropWhile {f : Char → Bool} (hf : ∀ c, f c = true → p c) (text : List Char) :
    Leaves p text (text.dropWhile f) :=
  ⟨text.takeWhile f, List.takeWhile_append_dropWhile.symm,
    fun c hc => hf c (List.mem_takeWhile_imp hc)⟩

theorem forall_of_nil (h : Leaves p text []) : ∀ c ∈ text, p c := by
  rcases h with ⟨front, rfl, hfront⟩
  rwa [List.append_nil]

end Leaves

/-! ## Four octets -/

namespace V4

variable {address : V4} {text rest : List Char}

/-- Whether every octet is one. -/
def IsValid (address : V4) : Prop :=
  address.a ≤ 255 ∧ address.b ≤ 255 ∧ address.c ≤ 255 ∧ address.d ≤ 255

/-- An octet is written in at most three digits, with no zero in front. -/
theorem decimal_octet : ∀ n ≤ 255, (Text.decimal n).length ≤ 3 ∧
    ((Text.decimal n).head? == some '0' && 1 < (Text.decimal n).length) = false := by
  decide +kernel

theorem readOctet_decimal {n : Nat} (h : n ≤ 255) (hrest : ∀ c ∈ rest.head?, c.isDigit = false) :
    readOctet (Text.decimal n ++ rest) = some (n, rest) := by
  rcases decimal_octet n h with ⟨hlength, hzero⟩
  have hvalue : Nat.ofDigitChars 10 (Text.decimal n) 0 = n := Nat.ofDigitChars_ten_toDigits
  have hempty : (Text.decimal n).isEmpty = false := by simpa using Text.decimal_ne_nil n
  simp only [readOctet, (Text.allDigits_decimal n).takeWhile_append hrest,
    (Text.allDigits_decimal n).dropWhile_append hrest, hvalue, hempty, hzero]
  rw [if_neg]
  simp only [Bool.false_or, Bool.or_false, Bool.or_eq_true, decide_eq_true_eq]
  omega

theorem le_of_readOctet {n : Nat} (h : readOctet text = some (n, rest)) : n ≤ 255 := by
  simp only [readOctet] at h
  split at h
  case isTrue => cases h
  case isFalse hnot =>
    cases h
    simp only [Bool.or_eq_true, decide_eq_true_eq, not_or] at hnot
    omega

theorem write_eq (address : V4) : address.write =
    Text.decimal address.a ++ '.' :: (Text.decimal address.b ++ '.' :: (Text.decimal address.c ++
      '.' :: Text.decimal address.d)) := by
  simp [write, Text.join]

theorem readFront_write (h : address.IsValid) (hrest : ∀ c ∈ rest.head?, c.isDigit = false) :
    readFront (address.write ++ rest) = some (address, rest) := by
  rcases h with ⟨ha, hb, hc, hd⟩
  have hpoint (more : List Char) : ∀ c ∈ ('.' :: more).head?, c.isDigit = false := by
    intro c hc
    cases hc
    rfl
  rw [write_eq]
  simp only [List.append_assoc, List.cons_append, readFront, readPointOctet,
    readOctet_decimal ha (hpoint _), readOctet_decimal hb (hpoint _),
    readOctet_decimal hc (hpoint _), readOctet_decimal hd hrest, Option.bind_eq_bind,
    Option.bind_some, Option.pure_def]

/-- A valid address reads back. -/
theorem read?_write (h : address.IsValid) : read? address.write = some address := by
  have hnil : ∀ c ∈ ([] : List Char).head?, c.isDigit = false := by simp
  have hfront := readFront_write h hnil
  rw [List.append_nil] at hfront
  rw [read?, hfront]

theorem le_of_readPointOctet {n : Nat} (h : readPointOctet text = some (n, rest)) : n ≤ 255 := by
  unfold readPointOctet at h
  split at h
  · exact le_of_readOctet h
  · cases h

theorem isValid_of_readFront (h : readFront text = some (address, rest)) : address.IsValid := by
  simp only [readFront, Option.bind_eq_bind, Option.bind_eq_some_iff, Option.pure_def,
    Option.some.injEq, Prod.exists, Prod.mk.injEq] at h
  rcases h with ⟨a, _, ha, b, _, hb, c, _, hc, d, _, hd, rfl, rfl⟩
  exact ⟨le_of_readOctet ha, le_of_readPointOctet hb, le_of_readPointOctet hc,
    le_of_readPointOctet hd⟩

theorem isValid_of_read? (h : read? text = some address) : address.IsValid := by
  unfold read? at h
  split at h
  case h_1 front hfront =>
    cases h
    exact isValid_of_readFront hfront
  case h_2 => cases h

/-- A text without points starts with no address. -/
theorem readFront_eq_none (h : '.' ∉ text) : readFront text = none := by
  cases hread : readFront text with
  | none => rfl
  | some front =>
      simp only [readFront, Option.bind_eq_bind, Option.bind_eq_some_iff, Prod.exists] at hread
      rcases hread with ⟨a, after, ha, b, _, hb, -⟩
      -- What follows the first octet is part of the text, so that it starts with no point.
      have hafter : after = text.dropWhile Char.isDigit := by
        simp only [readOctet] at ha
        split at ha
        case isTrue => cases ha
        case isFalse => exact (Prod.mk.inj (Option.some.inj ha)).2.symm
      unfold readPointOctet at hb
      split at hb
      case h_1 more =>
        have hmem : '.' ∈ text.dropWhile Char.isDigit := hafter ▸ List.mem_cons_self
        exact absurd ((List.dropWhile_sublist _).mem hmem) h
      case h_2 => cases hb

theorem mem_write {c : Char} (h : c ∈ address.write) : c.isDigit = true ∨ c = '.' := by
  have hdecimal (n : Nat) (hc : c ∈ Text.decimal n) : c.isDigit = true :=
    Text.allDigits_decimal n c hc
  rw [write_eq] at h
  simp only [List.mem_append, List.mem_cons] at h
  rcases h with h | h | h | h | h | h | h
  · exact .inl (hdecimal _ h)
  · exact .inr h
  · exact .inl (hdecimal _ h)
  · exact .inr h
  · exact .inl (hdecimal _ h)
  · exact .inr h
  · exact .inl (hdecimal _ h)

/-- The characters that an address is written with. -/
def IsChar (c : Char) : Prop :=
  c.isDigit = true ∨ c = '.'

theorem leaves_readOctet {n : Nat} (h : readOctet text = some (n, rest)) :
    Leaves IsChar text rest := by
  simp only [readOctet] at h
  split at h
  case isTrue => cases h
  case isFalse =>
    cases h
    exact .dropWhile (fun c hc => .inl hc) text

theorem leaves_readPointOctet {n : Nat} (h : readPointOctet text = some (n, rest)) :
    Leaves IsChar text rest := by
  unfold readPointOctet at h
  split at h
  case h_1 => exact .cons (.inr rfl) (leaves_readOctet h)
  case h_2 => cases h

theorem leaves_readFront (h : readFront text = some (address, rest)) :
    Leaves IsChar text rest := by
  simp only [readFront, Option.bind_eq_bind, Option.bind_eq_some_iff, Option.pure_def,
    Option.some.injEq, Prod.exists, Prod.mk.injEq] at h
  rcases h with ⟨a, _, ha, b, _, hb, c, _, hc, d, _, hd, rfl, rfl⟩
  exact (leaves_readOctet ha).trans ((leaves_readPointOctet hb).trans
    ((leaves_readPointOctet hc).trans (leaves_readPointOctet hd)))

theorem isChar_of_read? (h : read? text = some address) : ∀ c ∈ text, IsChar c := by
  unfold read? at h
  split at h
  case h_1 hfront => exact (leaves_readFront hfront).forall_of_nil
  case h_2 => cases h

end V4

/-! ## Hexadecimal groups -/

namespace V6

/-- Whether a character is a hexadecimal digit. -/
def isHex (c : Char) : Bool :=
  (Text.hexDigit? c).isSome

theorem isHex_of_isDigit {c : Char} (h : c.isDigit = true) : isHex c = true := by
  have hdigit : ('0' ≤ c && c ≤ '9') = true := h
  rw [isHex, Text.hexDigit?, if_pos hdigit]
  rfl

theorem hexDigit?_digitChar : ∀ d < 16, Text.hexDigit? d.digitChar = some d := by
  decide

theorem isHex_of_mem_writeGroup {group : Nat} {c : Char} (h : c ∈ writeGroup group) :
    isHex c = true := by
  induction group using Nat.strongRecOn with
  | ind group ih =>
      have hdigit : isHex (group % 16).digitChar = true := by
        rw [isHex, hexDigit?_digitChar _ (Nat.mod_lt _ (by decide))]
        rfl
      rw [writeGroup, Nat.toDigits_eq_if (by decide)] at h
      split at h
      case isTrue hlt =>
        rw [List.mem_singleton.1 h, ← Nat.mod_eq_of_lt hlt]
        exact hdigit
      case isFalse hle =>
        rcases List.mem_append.1 h with h | h
        · exact ih (group / 16) (Nat.div_lt_self (by omega) (by decide)) h
        · rw [List.mem_singleton.1 h]
          exact hdigit

theorem value_writeGroup (group : Nat) :
    (writeGroup group).foldl (fun value c => value * 16 + (Text.hexDigit? c).getD 0) 0 = group := by
  induction group using Nat.strongRecOn with
  | ind group ih =>
      rw [writeGroup, Nat.toDigits_eq_if (by decide)]
      split
      case isTrue hlt => simp [hexDigit?_digitChar group hlt]
      case isFalse hle =>
        have hrest := ih (group / 16) (Nat.div_lt_self (by omega) (by decide))
        rw [writeGroup] at hrest
        rw [List.foldl_append, hrest]
        simp only [List.foldl_cons, List.foldl_nil,
          hexDigit?_digitChar _ (Nat.mod_lt group (by decide)), Option.getD_some]
        omega

/-- A group is written in at most four digits. -/
theorem length_writeGroup {group : Nat} (h : group < 0x10000) :
    (writeGroup group).length ≤ 4 :=
  (Nat.length_toDigits_le_iff (by decide) (by decide)).2 h

variable {rest : List Char}

theorem readGroup_writeGroup {group : Nat} (h : group < 0x10000)
    (hrest : ∀ c ∈ rest.head?, isHex c = false) :
    readGroup (writeGroup group ++ rest) = some (group, rest) := by
  have htake : (writeGroup group ++ rest).takeWhile (fun c => (Text.hexDigit? c).isSome) =
      writeGroup group := Text.takeWhile_eq_front (fun _ => isHex_of_mem_writeGroup) hrest
  have hdrop : (writeGroup group ++ rest).dropWhile (fun c => (Text.hexDigit? c).isSome) = rest :=
    Text.dropWhile_eq_rest (fun _ => isHex_of_mem_writeGroup) hrest
  have hempty : (writeGroup group).isEmpty = false := by
    rw [List.isEmpty_eq_false_iff, writeGroup]
    exact Nat.toDigits_ne_nil
  have hlength := length_writeGroup h
  rw [readGroup, htake, hdrop, hempty, if_neg (by simpa using hlength), value_writeGroup]

theorem readGroup_eq_none (h : ∀ c ∈ rest.head?, isHex c = false) : readGroup rest = none := by
  have hnil : ∀ c ∈ ([] : List Char), isHex c = true := by simp
  have htake : rest.takeWhile (fun c => (Text.hexDigit? c).isSome) = [] :=
    Text.takeWhile_eq_front hnil h
  simp [readGroup, htake]

theorem toNat_le {a b : Char} : a ≤ b → a.toNat ≤ b.toNat :=
  UInt32.le_iff_toNat_le.1

/-- The characters that are hexadecimal digits. -/
theorem hexDigit?_eq_some {c : Char} {d : Nat} (h : Text.hexDigit? c = some d) :
    (48 ≤ c.toNat ∧ c.toNat ≤ 57 ∧ d = c.toNat - 48) ∨
      (97 ≤ c.toNat ∧ c.toNat ≤ 102 ∧ d = c.toNat - 97 + 10) ∨
      (65 ≤ c.toNat ∧ c.toNat ≤ 70 ∧ d = c.toNat - 65 + 10) := by
  simp only [Text.hexDigit?, Bool.and_eq_true, decide_eq_true_eq] at h
  split at h
  case isTrue hdigit =>
    cases h
    exact .inl ⟨toNat_le hdigit.1, toNat_le hdigit.2, rfl⟩
  case isFalse =>
    split at h
    case isTrue hdigit =>
      cases h
      exact .inr (.inl ⟨toNat_le hdigit.1, toNat_le hdigit.2, rfl⟩)
    case isFalse =>
      split at h
      case isTrue hdigit =>
        cases h
        exact .inr (.inr ⟨toNat_le hdigit.1, toNat_le hdigit.2, rfl⟩)
      case isFalse => cases h

theorem hexDigit?_lt (c : Char) : (Text.hexDigit? c).getD 0 < 16 := by
  cases hdigit : Text.hexDigit? c with
  | none => decide
  | some d =>
      have hd := hexDigit?_eq_some hdigit
      rw [Option.getD_some]
      omega

theorem isBlank_of_isHex {c : Char} (h : isHex c = true) : Text.isBlank c = false := by
  rcases Option.isSome_iff_exists.1 h with ⟨d, hd⟩
  have hrange := hexDigit?_eq_some hd
  exact Text.isBlank_of_visible (by omega) (by omega)

/-- The value of at most four digits is a group. -/
theorem lt_of_readGroup {group : Nat} {text : List Char}
    (h : readGroup text = some (group, rest)) : group < 0x10000 := by
  have hvalue (digits : List Char) (value : Nat) :
      digits.foldl (fun value c => value * 16 + (Text.hexDigit? c).getD 0) value <
        (value + 1) * 16 ^ digits.length := by
    -- The value read so far bounds what further digits can make of it.
    induction digits generalizing value with
    | nil => simp
    | cons c digits ih =>
        have hc := hexDigit?_lt c
        calc
          _ < (value * 16 + (Text.hexDigit? c).getD 0 + 1) * 16 ^ digits.length := ih _
          _ ≤ ((value + 1) * 16) * 16 ^ digits.length := Nat.mul_le_mul_right _ (by omega)
          _ = (value + 1) * 16 ^ (digits.length + 1) := by rw [Nat.mul_assoc, Nat.pow_succ']
  simp only [readGroup] at h
  split at h
  case isTrue => cases h
  case isFalse hnot =>
    cases h
    simp only [Bool.or_eq_true, decide_eq_true_eq, not_or, Nat.not_lt] at hnot
    calc
      _ < 1 * 16 ^ (text.takeWhile fun c => (Text.hexDigit? c).isSome).length := by
        simpa using hvalue _ 0
      _ ≤ 1 * 16 ^ 4 := Nat.mul_le_mul_left 1 (Nat.pow_le_pow_right (by decide) hnot.2)

/-! ## Groups with colons between them -/

/-- Groups, each with a colon before it. -/
def writeColonGroups (groups : List Nat) : List Char :=
  groups.flatMap fun group => ':' :: writeGroup group

theorem writeGroups_cons (group : Nat) (groups : List Nat) :
    writeGroups (group :: groups) = writeGroup group ++ writeColonGroups groups := by
  induction groups generalizing group with
  | nil => simp [writeGroups, writeColonGroups, Text.join]
  | cons next groups ih =>
      have hnext := ih next
      simp only [writeGroups, Text.join, writeColonGroups, List.map_cons,
        List.intersperse_cons_cons, List.flatten_cons, List.flatMap_cons] at hnext ⊢
      rw [hnext]
      simp

theorem mem_writeGroups {groups : List Nat} {c : Char} (h : c ∈ writeGroups groups) :
    isHex c = true ∨ c = ':' := by
  rcases Text.mem_of_mem_join h with h | ⟨text, htext, h⟩
  · exact .inr h
  · rcases List.mem_map.1 htext with ⟨group, _, rfl⟩
    exact .inl (isHex_of_mem_writeGroup h)

/-- A text that ends, or goes on with a double colon, goes on with no group. -/
def Stops (rest : List Char) : Prop :=
  rest = [] ∨ ∃ more, rest = ':' :: ':' :: more

theorem Stops.isHex_head (h : Stops rest) : ∀ c ∈ rest.head?, isHex c = false := by
  intro c hc
  rcases h with rfl | ⟨more, rfl⟩
  · cases hc
  · cases hc
    rfl

theorem isHex_head_colon : ∀ c ∈ (':' :: rest).head?, isHex c = false := by
  intro c hc
  cases hc
  rfl

theorem readOctet_colon : V4.readFront (':' :: rest) = none := by
  simp [V4.readFront, V4.readOctet]

/-- Where no group follows none is read. -/
theorem readGroups_of_stops {first : Bool} {limit : Nat} (h : Stops rest) :
    readGroups first limit rest = ⟨[], false, rest⟩ := by
  cases limit with
  | zero => rfl
  | succ limit =>
      rcases h with rfl | ⟨more, rfl⟩
      · cases first <;> simp [readGroups, V4.readFront, V4.readOctet, readGroup]
      · cases first <;>
          simp [readGroups, readOctet_colon, readGroup_eq_none isHex_head_colon]

/-- One more group is read, unless an address of four octets stands there. -/
theorem readGroups_succ {group : Nat} {body : List Char} (first : Bool) (limit : Nat)
    (hgroup : group < 0x10000) (hbody : body = writeGroup group ++ rest)
    (hrest : ∀ c ∈ rest.head?, isHex c = false) (hfront : V4.readFront body = none) :
    readGroups first (limit + 1) (if first then body else ':' :: body) =
      { readGroups false limit rest with
        groups := group :: (readGroups false limit rest).groups } := by
  have hread : readGroup body = some (group, rest) := hbody ▸ readGroup_writeGroup hgroup hrest
  cases first <;> simp [readGroups, hfront, hread]

theorem writeColonGroups_cons (group : Nat) (groups : List Nat) :
    writeColonGroups (group :: groups) = ':' :: (writeGroup group ++ writeColonGroups groups) := by
  simp [writeColonGroups]

theorem isHex_head_writeColonGroups {groups : List Nat} (hrest : Stops rest) :
    ∀ c ∈ (writeColonGroups groups ++ rest).head?, isHex c = false := by
  cases groups with
  | nil => exact hrest.isHex_head
  | cons group groups =>
      rw [writeColonGroups_cons]
      exact isHex_head_colon

/-- Groups are read up to a text that stops them. -/
theorem readGroups_writeColonGroups {groups : List Nat} {limit : Nat}
    (hgroups : ∀ group ∈ groups, group < 0x10000) (hlimit : groups.length ≤ limit)
    (hrest : Stops rest) (hpoint : '.' ∉ writeColonGroups groups ++ rest) :
    readGroups false limit (writeColonGroups groups ++ rest) = ⟨groups, false, rest⟩ := by
  induction groups generalizing limit with
  | nil => exact readGroups_of_stops hrest
  | cons group groups ih =>
      cases limit with
      | zero => cases hlimit
      | succ limit =>
          rw [writeColonGroups_cons, List.cons_append, List.append_assoc] at hpoint ⊢
          -- Without a point in the text no group is taken for the first octet of four.
          have hbody : '.' ∉ writeGroup group ++ (writeColonGroups groups ++ rest) :=
            fun hmem => hpoint (List.mem_cons_of_mem _ hmem)
          have hafter : '.' ∉ writeColonGroups groups ++ rest :=
            fun hmem => hbody (List.mem_append_right _ hmem)
          have hstep := readGroups_succ false limit (hgroups group List.mem_cons_self)
            rfl (isHex_head_writeColonGroups hrest) (V4.readFront_eq_none hbody)
          rw [if_neg (by decide)] at hstep
          rw [hstep, ih (fun g hg => hgroups g (List.mem_cons_of_mem _ hg))
            (Nat.le_of_succ_le_succ hlimit) hafter]

theorem readGroups_writeGroups {groups : List Nat} {limit : Nat}
    (hgroups : ∀ group ∈ groups, group < 0x10000) (hlimit : groups.length ≤ limit)
    (hrest : Stops rest) (hpoint : '.' ∉ rest) :
    readGroups true limit (writeGroups groups ++ rest) = ⟨groups, false, rest⟩ := by
  have hpoint' : '.' ∉ writeGroups groups ++ rest := by
    intro hmem
    rcases List.mem_append.1 hmem with hmem | hmem
    · rcases mem_writeGroups hmem with h | h <;> revert h <;> decide
    · exact hpoint hmem
  cases groups with
  | nil => exact readGroups_of_stops hrest
  | cons group groups =>
      cases limit with
      | zero => cases hlimit
      | succ limit =>
          rw [writeGroups_cons, List.append_assoc] at hpoint' ⊢
          have hafter : '.' ∉ writeColonGroups groups ++ rest :=
            fun hmem => hpoint' (List.mem_append_right _ hmem)
          have hstep := readGroups_succ true limit (hgroups group List.mem_cons_self)
            rfl (isHex_head_writeColonGroups hrest) (V4.readFront_eq_none hpoint')
          rw [if_pos rfl] at hstep
          rw [hstep, readGroups_writeColonGroups
            (fun g hg => hgroups g (List.mem_cons_of_mem _ hg))
            (Nat.le_of_succ_le_succ hlimit) hrest hafter]

/-! ## The longest run of zeros -/

theorem take_leadingZeros (groups : List Nat) :
    groups.take (leadingZeros groups) = List.replicate (leadingZeros groups) 0 := by
  have htake : groups.take (leadingZeros groups) = groups.takeWhile (· == 0) :=
    (List.prefix_iff_eq_take.1 (List.takeWhile_prefix _)).symm
  rw [htake]
  exact List.eq_replicate_of_mem fun group hgroup => by simpa using List.mem_takeWhile_imp hgroup

/-- The run that was found lies within the groups and holds zeros only. -/
theorem eq_append_longestZeros (groups : List Nat) :
    groups = groups.take (longestZeros groups).1 ++ (List.replicate (longestZeros groups).2 0 ++
      groups.drop ((longestZeros groups).1 + (longestZeros groups).2)) := by
  induction groups with
  | nil => rfl
  | cons group groups ih =>
      rw [longestZeros]
      dsimp only
      split
      · rw [List.take_zero, List.nil_append, Nat.zero_add, ← take_leadingZeros,
          List.take_append_drop]
      · rw [Nat.succ_add, List.take_succ_cons, List.drop_succ_cons, List.cons_append, ← ih]

/-! ## Eight groups -/

variable {address : V6} {text : List Char}

/-- Whether an address has eight groups of 16 bits. -/
def IsValid (address : V6) : Prop :=
  address.groups.length = 8 ∧ ∀ group ∈ address.groups, group < 0x10000

/-- The address whose last two groups are written as four octets. -/
def mapped (high low : Nat) : V6 :=
  ⟨[0, 0, 0, 0, 0, 0xFFFF, high, low]⟩

theorem readGroups_mapped {v4 : V4} (h : v4.IsValid) :
    readGroups true 7 (writeGroup 0xFFFF ++ ':' :: v4.write) =
      ⟨[0xFFFF, v4.a * 256 + v4.b, v4.c * 256 + v4.d], true, []⟩ := by
  have hgroup : V4.readFront (writeGroup 0xFFFF ++ ':' :: v4.write) = none := by
    have hwrite : writeGroup 0xFFFF = ['f', 'f', 'f', 'f'] := by decide
    simp [hwrite, V4.readFront, V4.readOctet]
  have hstep := readGroups_succ true 6 (by decide) rfl isHex_head_colon hgroup
  have hnil : ∀ c ∈ ([] : List Char).head?, c.isDigit = false := by simp
  have hfront := V4.readFront_write h hnil
  rw [List.append_nil] at hfront
  rw [if_pos rfl] at hstep
  rw [hstep]
  simp [readGroups, hfront]

theorem read?_mapped {high low : Nat} (hhigh : high < 0x10000) (hlow : low < 0x10000) :
    read? (mapped high low).write = some (mapped high low) := by
  have hwrite : (mapped high low).write = ':' :: ':' :: (writeGroup 0xFFFF ++
      ':' :: V4.write ⟨high / 256, high % 256, low / 256, low % 256⟩) := rfl
  have hv4 : V4.IsValid ⟨high / 256, high % 256, low / 256, low % 256⟩ := by
    refine ⟨?_, ?_, ?_, ?_⟩ <;> dsimp only <;> omega
  rw [hwrite]
  simp only [read?, readGroups_of_stops (.inr ⟨_, rfl⟩), List.length_nil, Nat.sub_zero,
    readGroups_mapped hv4, Nat.div_add_mod']
  rfl

/-- A double colon is read as the groups that it stands for. -/
theorem read?_compressed {front back : List Nat} {length : Nat}
    (hfront : ∀ group ∈ front, group < 0x10000) (hback : ∀ group ∈ back, group < 0x10000)
    (hlength : front.length + length + back.length = 8) (hlong : 1 < length) :
    read? (writeGroups front ++ [':', ':'] ++ writeGroups back) =
      some ⟨front ++ List.replicate length 0 ++ back⟩ := by
  -- Reading stops at the double colon, and again at the end of the text.
  have hpoint : '.' ∉ [':', ':'] ++ writeGroups back := by
    intro hmem
    rcases List.mem_append.1 hmem with hmem | hmem
    · revert hmem
      decide
    · rcases mem_writeGroups hmem with h | h <;> revert h <;> decide
  have hhead : readGroups true 8 (writeGroups front ++ ([':', ':'] ++ writeGroups back)) =
      ⟨front, false, [':', ':'] ++ writeGroups back⟩ :=
    readGroups_writeGroups hfront (by omega) (.inr ⟨_, rfl⟩) hpoint
  have htail : readGroups true (7 - front.length) (writeGroups back ++ []) = ⟨back, false, []⟩ :=
    readGroups_writeGroups hback (by omega) (.inl rfl) (by simp)
  rw [List.append_nil] at htail
  have hne : front.length ≠ 8 := by omega
  have hzeros : 8 - front.length - back.length = length := by omega
  simp only [List.append_assoc, read?, hhead]
  simp [htail, hne, hzeros]

theorem read?_plain (h : address.IsValid) : read? (writeGroups address.groups) = some address := by
  have hhead : readGroups true 8 (writeGroups address.groups ++ []) =
      ⟨address.groups, false, []⟩ :=
    readGroups_writeGroups h.2 (Nat.le_of_eq h.1) (.inl rfl) (by simp)
  rw [List.append_nil] at hhead
  simp [read?, hhead, h.1]

/-- A valid address reads back. -/
theorem read?_write (h : address.IsValid) : read? address.write = some address := by
  by_cases hmapped : ∃ high low, address = mapped high low
  · rcases hmapped with ⟨high, low, rfl⟩
    exact read?_mapped (h.2 high (by simp [mapped])) (h.2 low (by simp [mapped]))
  · have heq := eq_append_longestZeros address.groups
    have hwrite : address.write =
        if 1 < (longestZeros address.groups).2 then
          writeGroups (address.groups.take (longestZeros address.groups).1) ++ [':', ':'] ++
            writeGroups (address.groups.drop
              ((longestZeros address.groups).1 + (longestZeros address.groups).2))
        else writeGroups address.groups := by
      rw [write]
      split
      case h_1 high low hgroups => exact absurd ⟨high, low, congrArg V6.mk hgroups⟩ hmapped
      case h_2 => rfl
    rw [hwrite]
    split
    -- A run of two zeros at least is left out, and is what is missing from eight groups.
    case isTrue hlong =>
      have hlength := congrArg List.length heq
      rw [List.length_append, List.length_append, List.length_replicate, h.1] at hlength
      rw [read?_compressed (fun g hg => h.2 g (List.mem_of_mem_take hg))
        (fun g hg => h.2 g (List.mem_of_mem_drop hg)) (by omega) hlong, List.append_assoc, ← heq]
    case isFalse => exact read?_plain h

/-- At most `limit` groups of 16 bits are read. -/
theorem readGroups_spec (first : Bool) (limit : Nat) (text : List Char) :
    (readGroups first limit text).groups.length ≤ limit ∧
      ∀ group ∈ (readGroups first limit text).groups, group < 0x10000 := by
  induction limit generalizing first text with
  | zero => simp [readGroups]
  | succ limit ih =>
      unfold readGroups
      dsimp only
      split
      case h_1 => simp
      case h_2 body hbody =>
        split
        case h_1 v4 rest hfront =>
          split at hfront
          case isTrue => cases hfront
          case isFalse hlimit =>
            -- Four octets are two groups, and there was room for two.
            rcases V4.isValid_of_readFront hfront with ⟨ha, hb, hc, hd⟩
            refine ⟨by simp; omega, ?_⟩
            simp only [List.mem_cons, List.not_mem_nil, or_false]
            rintro group (rfl | rfl) <;> omega
        case h_2 =>
          split
          case h_1 => simp
          case h_2 group rest hgroup =>
            have hmore := ih false rest
            refine ⟨Nat.succ_le_succ hmore.1, ?_⟩
            simp only [List.mem_cons]
            rintro g (rfl | hg)
            · exact lt_of_readGroup hgroup
            · exact hmore.2 g hg

theorem isValid_of_read? (h : read? text = some address) : address.IsValid := by
  have hhead := readGroups_spec true 8 text
  simp only [read?] at h
  split at h
  case isTrue hlength =>
    split at h
    case isTrue =>
      cases h
      exact ⟨hlength, hhead.2⟩
    case isFalse => cases h
  case isFalse hlength =>
    split at h
    case isTrue => cases h
    case isFalse =>
      split at h
      case h_1 rest hrest =>
        split at h
        case isTrue =>
          cases h
          have htail := readGroups_spec true (7 - (readGroups true 8 text).groups.length) rest
          refine ⟨by simp; omega, ?_⟩
          simp only [List.mem_append, List.mem_replicate]
          rintro group ((hg | hg) | hg)
          · exact hhead.2 group hg
          · omega
          · exact htail.2 group hg
        case isFalse => cases h
      case h_2 => cases h

theorem mem_write {c : Char} (h : c ∈ address.write) : isHex c = true ∨ c = ':' ∨ c = '.' := by
  unfold write at h
  split at h
  case h_1 high low _ =>
    rcases List.mem_append.1 h with h | h
    · simp only [List.mem_cons, List.not_mem_nil, or_false] at h
      rcases h with rfl | rfl | rfl | rfl | rfl | rfl | rfl <;> decide
    · rcases V4.mem_write h with h | h
      · exact .inl (isHex_of_isDigit h)
      · exact .inr (.inr h)
  case h_2 =>
    dsimp only at h
    split at h
    · rcases List.mem_append.1 h with h | h
      · rcases List.mem_append.1 h with h | h
        · exact (mem_writeGroups h).imp_right .inl
        · simp_all
      · exact (mem_writeGroups h).imp_right .inl
    · exact (mem_writeGroups h).imp_right .inl

/-! ### Characters -/

/-- The characters that an address is written with. -/
def IsChar (c : Char) : Prop :=
  isHex c = true ∨ c = ':' ∨ c = '.'

theorem isChar_of_v4 {c : Char} (h : V4.IsChar c) : IsChar c :=
  h.imp isHex_of_isDigit .inr

theorem leaves_readGroup {group : Nat} {text rest : List Char}
    (h : readGroup text = some (group, rest)) : Leaves IsChar text rest := by
  simp only [readGroup] at h
  split at h
  case isTrue => cases h
  case isFalse =>
    cases h
    exact .dropWhile (fun c hc => .inl hc) text

theorem leaves_readGroups (first : Bool) (limit : Nat) (text : List Char) :
    Leaves IsChar text (readGroups first limit text).rest := by
  induction limit generalizing first text with
  | zero => exact .refl text
  | succ limit ih =>
      unfold readGroups
      dsimp only
      split
      case h_1 => exact .refl text
      case h_2 body hbody =>
        have hcolon : Leaves IsChar text body := by
          split at hbody
          case isTrue =>
            cases hbody
            exact .refl text
          case isFalse =>
            split at hbody
            case h_1 =>
              cases hbody
              exact .cons (.inr (.inl rfl)) (.refl body)
            case h_2 => cases hbody
        split
        case h_1 v4 rest hfront =>
          split at hfront
          case isTrue => cases hfront
          case isFalse =>
            exact hcolon.trans ((V4.leaves_readFront hfront).mono fun c => isChar_of_v4)
        case h_2 =>
          split
          case h_1 => exact .refl text
          case h_2 group rest hgroup =>
            exact hcolon.trans ((leaves_readGroup hgroup).trans (ih false rest))

theorem isChar_of_read? {text : List Char} (h : read? text = some address) :
    ∀ c ∈ text, IsChar c := by
  have hhead := leaves_readGroups true 8 text
  simp only [read?] at h
  split at h
  case isTrue =>
    split at h
    case isTrue hend =>
      rw [List.isEmpty_iff.1 hend] at hhead
      exact hhead.forall_of_nil
    case isFalse => cases h
  case isFalse =>
    split at h
    case isTrue => cases h
    case isFalse =>
      split at h
      case h_1 rest hrest =>
        have htail := leaves_readGroups true (7 - (readGroups true 8 text).groups.length) rest
        split at h
        case isTrue hend =>
          rw [List.isEmpty_iff.1 hend] at htail
          rw [hrest] at hhead
          have hcolon : IsChar ':' := .inr (.inl rfl)
          exact (hhead.trans (.cons hcolon (.cons hcolon htail))).forall_of_nil
        case isFalse => cases h
      case h_2 => cases h

end V6

end Ip
end Xacml
