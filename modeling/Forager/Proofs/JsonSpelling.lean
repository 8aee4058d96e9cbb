import Mathlib.Data.List.DropRight
import Forager.Proofs.JsonReading

/-!
# Spelling documents as JSON

What was written as JSON, be it on one line or spread over many, is read back, whatever characters
its texts have, so long as its numbers are integers of a word. Characters *spell* a document if the
reader takes them for it whatever follows them. Both ways of writing spell the parts of a document
and join them with nothing but spaces, separators and brackets.

* `stringBody_escape`: however a character was escaped, it is read for itself.
* `numberBody_toDigits`: the digits of a natural number.
* `Spells.elements_comma`, `Spells.members_comma`: one element of a list, one field of a record.
* `spells_list`, `spells_record`: lists and records, with spaces between their parts.
* `parse_compact`, `parse_pretty`: a whole document.
-/
namespace Forager.Json

/-! ## Strings -/

/-- A control character is escaped by its number, and that number is read back. -/
theorem controlEscape_spec : ∀ n : Fin 32,
    (controlEscape (Char.ofNat n)).toList =
      ['\\', 'u', '0', '0', Nat.digitChar (n / 16), Nat.digitChar (n % 16)] ∧
    hexWord? '0' '0' (Nat.digitChar (n / 16)) (Nat.digitChar (n % 16)) = some n.val := by
  decide

theorem stringBody_control {c : Char} (h : c.toNat < 0x20) (r : List Char) :
    stringBody ((controlEscape c).toList ++ r) = (stringBody r).map (consText c) := by
  obtain ⟨written, read⟩ := controlEscape_spec ⟨c.toNat, h⟩
  rw [Char.ofNat_toNat] at written
  rw [written]
  simp only [List.cons_append, List.nil_append]
  rw [stringBody, read]
  simp only [show c.toNat < 0xd800 ∨ 0xdfff < c.toNat by omega, if_true, Char.ofNat_toNat]

theorem stringBody_literal {c : Char} (quote : c ≠ '"') (slash : c ≠ '\\')
    (printed : ¬ c.toNat < 0x20) (r : List Char) :
    stringBody (c :: r) = (stringBody r).map (consText c) := by
  rw [stringBody.eq_5 c r quote (fun _ _ _ _ _ eq _ => slash eq) (fun _ _ eq _ => slash eq),
    if_neg (not_or.2 ⟨printed, slash⟩)]

/-- Reading takes each character for itself however it was escaped. -/
theorem stringBody_escape (c : Char) (r : List Char) :
    stringBody ((escape c).toList ++ r) = (stringBody r).map (consText c) := by
  unfold escape
  split
  case h_8 quote slash _ _ _ _ _ =>
    split
    case isTrue control => exact stringBody_control control r
    case isFalse printed =>
      have written : c.toString.toList = [c] := by simp [Char.toString]
      rw [written, List.singleton_append]
      exact stringBody_literal quote slash printed r
  all_goals simp [stringBody, shortEscape?]

theorem stringBody_written (cs r : List Char) :
    stringBody (cs.flatMap (fun c => (escape c).toList) ++ '"' :: r) = some (some cs, r) := by
  induction cs with
  | nil => simp [stringBody]
  | cons c cs ih => rw [List.flatMap_cons, List.append_assoc, stringBody_escape, ih]; rfl

theorem toList_string (s : String) :
    (string s).toList = '"' :: (s.toList.flatMap (fun c => (escape c).toList) ++ ['"']) := by
  simp [string, String.toList_append, String.toList_join, List.flatMap_map]

/-! ## Spaces -/

theorem skipSpace_cons {c : Char} (h : isSpace c = false) (r : List Char) :
    skipSpace (c :: r) = c :: r := by
  simp [skipSpace, h]

theorem skipSpace_skipSpace (s : List Char) : skipSpace (skipSpace s) = skipSpace s :=
  List.dropWhile_idempotent _ s

/-- Nothing but spaces. -/
def Spaces (s : List Char) : Prop := ∀ c ∈ s, isSpace c = true

theorem Spaces.skipSpace {g : List Char} (h : Spaces g) (s : List Char) :
    skipSpace (g ++ s) = skipSpace s :=
  List.dropWhile_append_of_pos h

theorem isSpace_of_isDigit {c : Char} (h : c.isDigit = true) : isSpace c = false := by
  rw [Bool.eq_false_iff]
  intro space
  simp only [isSpace, Bool.or_eq_true, beq_iff_eq] at space
  obtain ((rfl | rfl) | rfl) | rfl := space <;> exact absurd h (by decide)

/-- A separator, a closing bracket or a space. -/
def followers : List Char := [',', ']', '\x7d', ' ', '\n', '\r', '\t']

/-- What may follow a value, if anything does. -/
def Follows (r : List Char) : Prop := ∀ c ∈ r.head?, c ∈ followers

theorem Spaces.follows {g : List Char} (h : Spaces g) {c : Char}
    (hc : c = ',' ∨ c = ']' ∨ c = '\x7d') (r : List Char) : Follows (g ++ c :: r) := by
  cases g with
  | nil =>
    rintro c ⟨⟩
    obtain rfl | rfl | rfl := hc <;> decide
  | cons x g =>
    rintro x ⟨⟩
    have space := h x List.mem_cons_self
    simp only [isSpace, Bool.or_eq_true, beq_iff_eq] at space
    obtain ((rfl | rfl) | rfl) | rfl := space <;> decide

theorem spaces_nil : Spaces [] := nofun

theorem follows_comma (s : List Char) : Follows (',' :: s) := spaces_nil.follows (by decide) s

/-! ## Numbers -/

section

variable {r : List Char}

theorem Follows.all {c : Char} (hr : Follows (c :: r)) {p : Char → Bool}
    (h : followers.all p = true) : p c = true :=
  List.all_eq_true.1 h c (hr c rfl)

theorem Follows.takeDigits {ds : List Char} (hds : ∀ c ∈ ds, c.isDigit = true) (hr : Follows r) :
    takeDigits (ds ++ r) = (ds, r) := by
  have outside : r.takeWhile Char.isDigit = [] ∧ r.dropWhile Char.isDigit = r := by
    cases r with
    | nil => exact ⟨rfl, rfl⟩
    | cons c r =>
      have plain := hr.all (p := fun c => !c.isDigit) (by decide)
      rw [Bool.not_eq_true'] at plain
      simp [plain]
  rw [Json.takeDigits, List.takeWhile_append_of_pos hds, List.dropWhile_append_of_pos hds,
    outside.1, outside.2, List.append_nil]

theorem Follows.fractionPart (hr : Follows r) : fractionPart r = some (none, r) := by
  cases r with
  | nil => rfl
  | cons c r =>
    have plain := hr.all (p := fun c => c != '.') (by decide)
    rw [bne_iff_ne] at plain
    simp [Json.fractionPart, plain]

theorem Follows.exponentPart (hr : Follows r) : exponentPart r = some (none, r) := by
  cases r with
  | nil => rfl
  | cons c r =>
    have plain := hr.all (p := fun c => c != 'e' && c != 'E') (by decide)
    simp only [Bool.and_eq_true, bne_iff_ne] at plain
    simp only [Json.exponentPart, if_neg (not_or.2 plain)]

end

/-- The first digit of a positive number is not zero. -/
theorem toDigits_eq_cons {n : Nat} (h : 0 < n) :
    ∃ c cs, Nat.toDigits 10 n = c :: cs ∧ c ≠ '0' := by
  induction n using Nat.strongRecOn with
  | ind n ih =>
    by_cases small : n < 10
    · have nonzero : ∀ k < 10, 0 < k → Nat.digitChar k ≠ '0' := by decide
      exact ⟨_, _, Nat.toDigits_of_lt_base small, nonzero n small h⟩
    · obtain ⟨c, cs, eq, ne⟩ := ih (n / 10) (by omega) (by omega)
      refine ⟨c, cs ++ [Nat.digitChar (n % 10)], ?_, ne⟩
      rw [Nat.toDigits_of_base_le (by decide) (by omega), eq, List.cons_append]

theorem numberBody_toDigits (negative : Bool) (n : Nat) {r : List Char} (hr : Follows r) :
    numberBody negative (Nat.toDigits 10 n ++ r) =
      some (assemble negative (Nat.toDigits 10 n) none none, r) := by
  have whole : takeDigits (Nat.toDigits 10 n ++ r) = (Nat.toDigits 10 n, r) :=
    hr.takeDigits fun c hc => Nat.isDigit_of_mem_toDigits (by decide) (by decide) hc
  -- Only zero itself starts with the digit zero.
  have plain : ∀ c cs, Nat.toDigits 10 n ≠ '0' :: c :: cs := by
    intro c cs eq
    obtain rfl | pos := Nat.eq_zero_or_pos n
    · simp [Nat.toDigits_zero] at eq
    · obtain ⟨d, ds, eq', ne⟩ := toDigits_eq_cons pos
      exact ne (List.cons.inj (eq'.symm.trans eq)).1
  unfold numberBody
  simp only [whole]
  split
  · exact absurd ‹_› Nat.toDigits_ne_nil
  · exact absurd ‹_› (plain _ _)
  · simp only [hr.fractionPart, hr.exponentPart]

theorem digitsValue_toDigits (n : Nat) : digitsValue (Nat.toDigits 10 n) = n :=
  Nat.ofDigitChars_ten_toDigits

theorem assemble_natural {n : Nat} (fits : fitsWord (.ofNat n) = true) :
    assemble false (Nat.toDigits 10 n) none none = .integer (.ofNat n) := by
  unfold assemble
  simp only [Option.getD_none, List.append_nil, digitsValue_toDigits]
  exact if_pos (by simpa using fits)

theorem assemble_negative {n : Nat} (fits : fitsWord (.negSucc n) = true) :
    assemble true (Nat.toDigits 10 (n + 1)) none none = .integer (.negSucc n) := by
  unfold assemble
  simp only [Option.getD_none, List.append_nil, digitsValue_toDigits]
  exact if_pos (by simpa [Int.negSucc_eq] using fits)

/-! ## One step of the reader -/

theorem value_skipSpace (fuel : Nat) (s : List Char) :
    value fuel (skipSpace s) = value fuel s := by
  cases fuel with
  | zero => rfl
  | succ fuel => rw [value, value, skipSpace_skipSpace]

theorem elements_skipSpace (fuel : Nat) (s : List Char) :
    elements fuel (skipSpace s) = elements fuel s := by
  cases fuel with
  | zero => rfl
  | succ fuel => rw [elements, elements, value_skipSpace]

theorem members_skipSpace (fuel : Nat) (s : List Char) :
    members fuel (skipSpace s) = members fuel s := by
  cases fuel with
  | zero => rfl
  | succ fuel => rw [members, members, skipSpace_skipSpace]

theorem value_spaces {g : List Char} (h : Spaces g) (fuel : Nat) (s : List Char) :
    value fuel (g ++ s) = value fuel s := by
  rw [← value_skipSpace, h.skipSpace, value_skipSpace]

theorem elements_spaces {g : List Char} (h : Spaces g) (fuel : Nat) (s : List Char) :
    elements fuel (g ++ s) = elements fuel s := by
  rw [← elements_skipSpace, h.skipSpace, elements_skipSpace]

theorem members_spaces {g : List Char} (h : Spaces g) (fuel : Nat) (s : List Char) :
    members fuel (g ++ s) = members fuel s := by
  rw [← members_skipSpace, h.skipSpace, members_skipSpace]

/-- A list that is not empty. -/
theorem value_list {s : List Char} (h : ∀ r, skipSpace s ≠ ']' :: r) (fuel : Nat) :
    value (fuel + 1) ('[' :: s) = (elements fuel s).map fun p => (Document.list p.1, p.2) := by
  rw [value]
  -- By `h` the bracket is not closed at once, so elements follow.
  simp only [skipSpace_cons (show isSpace '[' = false by decide), elements_skipSpace]

/-- A record that is not empty. -/
theorem value_record {s : List Char} (h : ∀ r, skipSpace s ≠ '\x7d' :: r) (fuel : Nat) :
    value (fuel + 1) ('\x7b' :: s) = (members fuel s).map fun p => (ofMembers p.1, p.2) := by
  rw [value]
  -- By `h` the brace is not closed at once, so fields follow.
  simp only [skipSpace_cons (show isSpace '\x7b' = false by decide), members_skipSpace]

theorem value_text (fuel : Nat) (s : List Char) :
    value (fuel + 1) ('"' :: s) = (stringBody s).map fun p => (ofText p.1, p.2) :=
  rfl

theorem value_negative (fuel : Nat) (s : List Char) :
    value (fuel + 1) ('-' :: s) = (numberBody true s).map fun p => (Document.number p.1, p.2) :=
  rfl

theorem value_digit {c : Char} (h : c.isDigit = true) (fuel : Nat) (s : List Char) :
    value (fuel + 1) (c :: s) =
      (numberBody false (c :: s)).map fun p => (Document.number p.1, p.2) := by
  rw [value, skipSpace_cons (isSpace_of_isDigit h)]
  split
  case h_8 => rfl
  -- The other forms do not open with a digit.
  all_goals
    rename_i eq
    cases eq
    exact absurd h (by decide)

/-! ## Spelling -/

/-- The characters are read as the document, whatever follows them. -/
def Spells (w : List Char) (d : Document) : Prop :=
  ∀ ⦃r : List Char⦄ ⦃fuel : Nat⦄, Follows r → w.length < fuel → value fuel (w ++ r) = some (d, r)

/-- What is read as a document does not close a list. -/
theorem Spells.opens {w : List Char} {d : Document} (h : Spells w d) {r : List Char}
    (follows : Follows r) (t : List Char) : skipSpace (w ++ r) ≠ ']' :: t := by
  intro closed
  have read := h follows (Nat.lt_succ_self _)
  rw [← value_skipSpace, closed] at read
  cases read

section

variable {d : Document} {w pad gap close r : List Char} {fuel : Nat}

/-- An element that is not the last one. -/
theorem Spells.elements_comma (h : Spells w d) (pad_spaces : Spaces pad)
    (enough : w.length < fuel) :
    elements (fuel + 1) (pad ++ (w ++ ',' :: r)) =
      (elements fuel r).map fun p => (d :: p.1, p.2) := by
  rw [elements_spaces pad_spaces, elements, h (follows_comma r) enough]
  rfl

/-- The last element. -/
theorem Spells.elements_close (h : Spells w d) (pad_spaces : Spaces pad)
    (close_spaces : Spaces close) (enough : w.length < fuel) :
    elements (fuel + 1) (pad ++ (w ++ (close ++ ']' :: r))) = some ([d], r) := by
  rw [elements_spaces pad_spaces, elements, h (close_spaces.follows (by decide) r) enough]
  simp only [close_spaces.skipSpace]
  rfl

/-- A field that is not the last one. -/
theorem Spells.members_comma (h : Spells w d) (pad_spaces : Spaces pad) (gap_spaces : Spaces gap)
    (k : String) (enough : w.length < fuel) :
    members (fuel + 1) (pad ++ ((string k).toList ++ ':' :: (gap ++ (w ++ ',' :: r)))) =
      (members fuel r).map fun p => ((some k.toList, d) :: p.1, p.2) := by
  rw [members_spaces pad_spaces, toList_string, List.cons_append, members,
    skipSpace_cons (by decide)]
  simp only [List.append_assoc, List.singleton_append, stringBody_written]
  rw [skipSpace_cons (by decide)]
  simp only [value_spaces gap_spaces, h (follows_comma r) enough]
  rfl

/-- The last field. -/
theorem Spells.members_close (h : Spells w d) (pad_spaces : Spaces pad) (gap_spaces : Spaces gap)
    (close_spaces : Spaces close) (k : String) (enough : w.length < fuel) :
    members (fuel + 1)
        (pad ++ ((string k).toList ++ ':' :: (gap ++ (w ++ (close ++ '\x7d' :: r))))) =
      some ([(some k.toList, d)], r) := by
  have follows : Follows (close ++ '\x7d' :: r) := close_spaces.follows (by decide) r
  rw [members_spaces pad_spaces, toList_string, List.cons_append, members,
    skipSpace_cons (by decide)]
  simp only [List.append_assoc, List.singleton_append, stringBody_written]
  rw [skipSpace_cons (by decide)]
  simp only [value_spaces gap_spaces, h follows enough, close_spaces.skipSpace]
  rfl

end

/-! ## Lists and records -/

/-- The characters of elements, each behind `pad`. -/
def itemsText (pad : List Char) (spell : Document → List Char) (ds : List Document) : List Char :=
  [','].intercalate (ds.map fun d => pad ++ spell d)

/-- The characters of fields, each behind `pad` and each value behind `gap`. -/
def fieldsText (pad gap : List Char) (spell : Document → List Char)
    (fs : List (String × Document)) : List Char :=
  [','].intercalate (fs.map fun f => pad ++ ((string f.1).toList ++ ':' :: (gap ++ spell f.2)))

/-- What the reader makes of written fields. -/
def asMembers (fs : List (String × Document)) : List (Option (List Char) × Document) :=
  fs.map fun f => (some f.1.toList, f.2)

theorem ofMembers_asMembers (fs : List (String × Document)) :
    ofMembers (asMembers fs) = .record fs := by
  have all : (asMembers fs).mapM (fun f => f.1.map fun k => (String.ofList k, f.2)) = some fs := by
    rw [mapM_eq_some_iff, asMembers, List.forall₂_map_left_iff, List.forall₂_same]
    simp
  rw [ofMembers, all]

section

variable {pad gap close r : List Char} {spell : Document → List Char} {fuel : Nat}

theorem itemsText_singleton (d : Document) : itemsText pad spell [d] = pad ++ spell d := by
  rw [itemsText, List.map_singleton, List.intercalate_singleton]

theorem itemsText_cons (d d' : Document) (ds : List Document) :
    itemsText pad spell (d :: d' :: ds) =
      pad ++ (spell d ++ ',' :: itemsText pad spell (d' :: ds)) := by
  simp [itemsText, List.intercalate_cons_cons]

theorem fieldsText_singleton (f : String × Document) : fieldsText pad gap spell [f] =
    pad ++ ((string f.1).toList ++ ':' :: (gap ++ spell f.2)) := by
  rw [fieldsText, List.map_singleton, List.intercalate_singleton]

theorem fieldsText_cons (f f' : String × Document) (fs : List (String × Document)) :
    fieldsText pad gap spell (f :: f' :: fs) = pad ++ ((string f.1).toList ++
      ':' :: (gap ++ (spell f.2 ++ ',' :: fieldsText pad gap spell (f' :: fs)))) := by
  simp [fieldsText, List.intercalate_cons_cons]

theorem elements_itemsText {ds : List Document} (nonempty : ds ≠ []) (pad_spaces : Spaces pad)
    (close_spaces : Spaces close) (spells : ∀ d ∈ ds, Spells (spell d) d)
    (enough : (itemsText pad spell ds).length + 1 < fuel) :
    elements fuel (itemsText pad spell ds ++ (close ++ ']' :: r)) = some (ds, r) := by
  induction ds generalizing fuel with
  | nil => exact absurd rfl nonempty
  | cons d ds ih =>
    obtain ⟨fuel, rfl⟩ := Nat.exists_eq_succ_of_ne_zero (Nat.ne_zero_of_lt enough)
    have spells_d := spells d List.mem_cons_self
    -- The bracket follows the last element, a comma the others.
    cases ds with
    | nil =>
      rw [itemsText_singleton, List.length_append] at enough
      rw [itemsText_singleton, List.append_assoc]
      exact spells_d.elements_close pad_spaces close_spaces (by omega)
    | cons d' ds =>
      simp only [itemsText_cons, List.length_append, List.length_cons] at enough
      have enough_ds : (itemsText pad spell (d' :: ds)).length + 1 < fuel := by omega
      have rest := ih (List.cons_ne_nil _ _) (fun x hx => spells x (List.mem_cons_of_mem _ hx))
        enough_ds
      rw [itemsText_cons]
      simp only [List.append_assoc, List.cons_append]
      rw [spells_d.elements_comma pad_spaces (by omega), rest, Option.map_some]

theorem members_fieldsText {fs : List (String × Document)} (nonempty : fs ≠ [])
    (pad_spaces : Spaces pad) (gap_spaces : Spaces gap) (close_spaces : Spaces close)
    (spells : ∀ f ∈ fs, Spells (spell f.2) f.2)
    (enough : (fieldsText pad gap spell fs).length + 1 < fuel) :
    members fuel (fieldsText pad gap spell fs ++ (close ++ '\x7d' :: r)) =
      some (asMembers fs, r) := by
  induction fs generalizing fuel with
  | nil => exact absurd rfl nonempty
  | cons f fs ih =>
    obtain ⟨fuel, rfl⟩ := Nat.exists_eq_succ_of_ne_zero (Nat.ne_zero_of_lt enough)
    have spells_f := spells f List.mem_cons_self
    cases fs with
    | nil =>
      simp only [fieldsText_singleton, List.length_append, List.length_cons] at enough
      rw [fieldsText_singleton]
      simp only [List.append_assoc, List.cons_append]
      exact spells_f.members_close pad_spaces gap_spaces close_spaces f.1 (by omega)
    | cons f' fs =>
      simp only [fieldsText_cons, List.length_append, List.length_cons] at enough
      have enough_fs : (fieldsText pad gap spell (f' :: fs)).length + 1 < fuel := by omega
      have rest := ih (List.cons_ne_nil _ _) (fun x hx => spells x (List.mem_cons_of_mem _ hx))
        enough_fs
      rw [fieldsText_cons]
      simp only [List.append_assoc, List.cons_append]
      rw [spells_f.members_comma pad_spaces gap_spaces f.1 (by omega), rest, Option.map_some]
      simp only [asMembers, List.map_cons]

theorem itemsText_opens {ds : List Document} (nonempty : ds ≠ []) (pad_spaces : Spaces pad)
    (close_spaces : Spaces close) (spells : ∀ d ∈ ds, Spells (spell d) d) (t : List Char) :
    skipSpace (itemsText pad spell ds ++ (close ++ ']' :: r)) ≠ ']' :: t := by
  obtain ⟨d, ds, rfl⟩ := List.exists_cons_of_ne_nil nonempty
  have spells_d := spells d List.mem_cons_self
  cases ds with
  | nil =>
    rw [itemsText_singleton, List.append_assoc, pad_spaces.skipSpace]
    exact spells_d.opens (close_spaces.follows (by decide) r) t
  | cons d' ds =>
    rw [itemsText_cons, List.append_assoc, pad_spaces.skipSpace, List.append_assoc]
    exact spells_d.opens (follows_comma _) t

theorem fieldsText_opens {fs : List (String × Document)} (nonempty : fs ≠ [])
    (pad_spaces : Spaces pad) (t : List Char) :
    skipSpace (fieldsText pad gap spell fs ++ r) ≠ '\x7d' :: t := by
  obtain ⟨f, fs, rfl⟩ := List.exists_cons_of_ne_nil nonempty
  obtain ⟨s, eq⟩ : ∃ s, fieldsText pad gap spell (f :: fs) = pad ++ '"' :: s := by
    cases fs with
    | nil => exact ⟨_, by rw [fieldsText_singleton, toList_string, List.cons_append]⟩
    | cons f' fs => exact ⟨_, by rw [fieldsText_cons, toList_string, List.cons_append]⟩
  rw [eq, List.append_assoc, pad_spaces.skipSpace, List.cons_append, skipSpace_cons (by decide)]
  exact fun closed => absurd (List.cons.inj closed).1 (by decide)

theorem spells_list (spell : Document → List Char) {ds : List Document} (nonempty : ds ≠ [])
    (pad_spaces : Spaces pad) (close_spaces : Spaces close)
    (spells : ∀ d ∈ ds, Spells (spell d) d) :
    Spells ('[' :: (itemsText pad spell ds ++ (close ++ [']']))) (.list ds) := by
  rintro r (_ | fuel) - enough
  · exact absurd enough (Nat.not_lt_zero _)
  simp only [List.length_cons, List.length_append] at enough
  have read : elements fuel (itemsText pad spell ds ++ (close ++ ']' :: r)) = some (ds, r) :=
    elements_itemsText nonempty pad_spaces close_spaces spells (by omega)
  simp only [List.cons_append, List.append_assoc, List.nil_append]
  rw [value_list (itemsText_opens nonempty pad_spaces close_spaces spells), read]
  rfl

theorem spells_record (spell : Document → List Char) {fs : List (String × Document)}
    (nonempty : fs ≠ []) (pad_spaces : Spaces pad) (gap_spaces : Spaces gap)
    (close_spaces : Spaces close)
    (spells : ∀ f ∈ fs, Spells (spell f.2) f.2) :
    Spells ('\x7b' :: (fieldsText pad gap spell fs ++ (close ++ ['\x7d']))) (.record fs) := by
  rintro r (_ | fuel) - enough
  · exact absurd enough (Nat.not_lt_zero _)
  simp only [List.length_cons, List.length_append] at enough
  have read : members fuel (fieldsText pad gap spell fs ++ (close ++ '\x7d' :: r)) =
      some (asMembers fs, r) :=
    members_fieldsText nonempty pad_spaces gap_spaces close_spaces spells (by omega)
  simp only [List.cons_append, List.append_assoc, List.nil_append]
  rw [value_record (fieldsText_opens nonempty pad_spaces), read, Option.map_some,
    ofMembers_asMembers]

end

/-! ## Documents that JSON keeps -/

/-- Documents whose written form says all there is to them: the numbers are integers of a word. -/
inductive Kept : Document → Prop
  | null : Kept .null
  | bool (b : Bool) : Kept (.bool b)
  | integer {n : Int} (fits : fitsWord n = true) : Kept (.number (.integer n))
  | text (s : String) : Kept (.text s)
  | list {items : List Document} (items_kept : ∀ d ∈ items, Kept d) : Kept (.list items)
  | record {fs : List (String × Document)} (fields_kept : ∀ f ∈ fs, Kept f.2) : Kept (.record fs)

/-- What is read in one step. -/
theorem Spells.of_step {w : List Char} {d : Document}
    (h : ∀ r fuel, Follows r → value (fuel + 1) (w ++ r) = some (d, r)) : Spells w d := by
  intro r fuel follows enough
  obtain ⟨fuel, rfl⟩ := Nat.exists_eq_succ_of_ne_zero (Nat.ne_zero_of_lt enough)
  exact h r fuel follows

theorem spells_null : Spells "null".toList .null := .of_step fun _ _ _ => rfl

theorem spells_bool (b : Bool) : Spells (if b then "true" else "false").toList (.bool b) := by
  refine .of_step fun r fuel _ => ?_
  cases b <;> rfl

theorem spells_nil_list : Spells "[]".toList (.list []) := .of_step fun _ _ _ => rfl

theorem spells_nil_record : Spells "\x7b\x7d".toList (.record []) := .of_step fun _ _ _ => rfl

theorem spells_integer {n : Int} (fits : fitsWord n = true) :
    Spells (toString n).toList (.number (.integer n)) := by
  refine .of_step fun r fuel follows => ?_
  cases n with
  | ofNat n =>
    have written : (toString (Int.ofNat n)).toList = Nat.toDigits 10 n := by
      show (n.repr).toList = _
      rw [Nat.repr_eq_ofList_toDigits, String.toList_ofList]
    obtain ⟨c, cs, eq⟩ := List.exists_cons_of_ne_nil (Nat.toDigits_ne_nil (b := 10) (n := n))
    have digit : c.isDigit = true :=
      Nat.isDigit_of_mem_toDigits (by decide) (by decide) (eq ▸ List.mem_cons_self)
    rw [written, eq, List.cons_append, value_digit digit, ← List.cons_append, ← eq,
      numberBody_toDigits false n follows, assemble_natural fits]
    rfl
  | negSucc n =>
    have written : (toString (Int.negSucc n)).toList = '-' :: Nat.toDigits 10 (n + 1) := by
      show ("-" ++ (n + 1).repr).toList = _
      simp [Nat.repr_eq_ofList_toDigits]
    rw [written, List.cons_append, value_negative, numberBody_toDigits true (n + 1) follows,
      assemble_negative fits]
    rfl

theorem spells_text (s : String) : Spells (string s).toList (.text s) := by
  refine .of_step fun r fuel _ => ?_
  rw [toList_string, List.cons_append, value_text, List.append_assoc, List.singleton_append,
    stringBody_written]
  simp [ofText]

/-! ## On one line -/

theorem toList_compactItems (ds : List Document) :
    (compactItems ds).toList = itemsText [] (fun d => (compact d).toList) ds := by
  induction ds with
  | nil => rw [compactItems]; rfl
  | cons d ds ih =>
    cases ds with
    | nil => rw [compactItems, itemsText_singleton, List.nil_append]
    | cons d' ds =>
      rw [compactItems, itemsText_cons, ← ih]
      · simp
      · exact List.cons_ne_nil _ _

theorem toList_compactFields (fs : List (String × Document)) :
    (compactFields fs).toList = fieldsText [] [] (fun d => (compact d).toList) fs := by
  induction fs with
  | nil => rw [compactFields]; rfl
  | cons f fs ih =>
    cases fs with
    | nil =>
      rw [compactFields, fieldsText_singleton]
      simp
    | cons f' fs =>
      rw [compactFields, fieldsText_cons, ← ih]
      · simp
      · exact List.cons_ne_nil _ _

theorem Kept.spells_compact {d : Document} (h : Kept d) : Spells (compact d).toList d := by
  induction h with
  | null => exact spells_null
  | bool b => exact spells_bool b
  | integer fits => exact spells_integer fits
  | text s => exact spells_text s
  | @list items _ ih =>
    cases items with
    | nil => exact spells_nil_list
    | cons d ds =>
      have spells := spells_list (fun d => (compact d).toList) (List.cons_ne_nil d ds) spaces_nil
        spaces_nil ih
      rw [← toList_compactItems] at spells
      rw [compact]
      simpa using spells
  | @record fs _ ih =>
    cases fs with
    | nil => exact spells_nil_record
    | cons f fs =>
      have spells := spells_record (fun d => (compact d).toList) (List.cons_ne_nil f fs) spaces_nil
        spaces_nil spaces_nil ih
      rw [← toList_compactFields] at spells
      rw [compact]
      simpa using spells

/-! ## Spread over lines -/

theorem toList_spreadItems (level : Nat) (ds : List Document) :
    (spreadItems level ds).toList =
      itemsText (newline level).toList (fun d => (spread level d).toList) ds := by
  induction ds with
  | nil => rw [spreadItems]; rfl
  | cons d ds ih =>
    cases ds with
    | nil => rw [spreadItems, itemsText_singleton, String.toList_append]
    | cons d' ds =>
      rw [spreadItems, itemsText_cons, ← ih]
      · simp
      · exact List.cons_ne_nil _ _

theorem toList_spreadFields (level : Nat) (fs : List (String × Document)) :
    (spreadFields level fs).toList =
      fieldsText (newline level).toList [' '] (fun d => (spread level d).toList) fs := by
  induction fs with
  | nil => rw [spreadFields]; rfl
  | cons f fs ih =>
    cases fs with
    | nil =>
      rw [spreadFields, fieldsText_singleton]
      simp
    | cons f' fs =>
      rw [spreadFields, fieldsText_cons, ← ih]
      · simp
      · exact List.cons_ne_nil _ _

theorem spaces_newline (level : Nat) : Spaces (newline level).toList := by
  intro c hc
  have mem : c = '\n' ∨ c = ' ' := by
    simp only [newline, String.toList_append, List.mem_append, String.toList_ofList] at hc
    exact hc.imp List.mem_singleton.1 fun h => (List.mem_replicate.1 h).2
  obtain rfl | rfl := mem <;> rfl

theorem spaces_gap : Spaces [' '] := List.forall_mem_singleton.2 rfl

theorem Kept.spells_spread {d : Document} (h : Kept d) :
    ∀ level, Spells (spread level d).toList d := by
  induction h with
  | null => exact fun _ => spells_null
  | bool b => exact fun _ => spells_bool b
  | integer fits => exact fun _ => spells_integer fits
  | text s => exact fun _ => spells_text s
  | @list items _ ih =>
    intro level
    cases items with
    | nil => exact spells_nil_list
    | cons d ds =>
      have spells := spells_list (fun d => (spread (level + 1) d).toList) (List.cons_ne_nil d ds)
        (spaces_newline (level + 1)) (spaces_newline level) fun x hx => ih x hx (level + 1)
      rw [← toList_spreadItems] at spells
      rw [spread]
      · simpa using spells
      · exact List.cons_ne_nil d ds
  | @record fs _ ih =>
    intro level
    cases fs with
    | nil => exact spells_nil_record
    | cons f fs =>
      have spells := spells_record (fun d => (spread (level + 1) d).toList) (List.cons_ne_nil f fs)
        (spaces_newline (level + 1)) spaces_gap (spaces_newline level)
        fun x hx => ih x hx (level + 1)
      rw [← toList_spreadFields] at spells
      rw [spread]
      · simpa using spells
      · exact List.cons_ne_nil f fs

/-! ## Whole texts -/

theorem Spells.parse {text : String} {d : Document} (h : Spells text.toList d) :
    parse text = some d := by
  have follows : Follows [] := nofun
  have enough : text.toList.length < 2 * text.toList.length + 2 := by omega
  have read := h follows enough
  rw [List.append_nil] at read
  simp only [Json.parse, read]
  rfl

theorem parse_compact {d : Document} (h : Kept d) : parse (compact d) = some d :=
  h.spells_compact.parse

theorem parse_pretty {d : Document} (h : Kept d) : parse (pretty d) = some d :=
  (h.spells_spread 0).parse

end Forager.Json
