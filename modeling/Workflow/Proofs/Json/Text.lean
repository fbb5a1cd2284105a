import Workflow.Json.Writer
import Workflow.Proofs.Json.Numeral
import Workflow.Proofs.Json.Written

/-! What is written of a value is read as the value, and all that is read can be written so. -/

namespace Workflow

def Floating.Legible : Floating → Prop
  | .finite x => x.Proper
  | .infinite _ => True
  | .nan named => named = true

namespace Json

namespace Reader

variable {limit : ℕ} {rest : List Char}

/-! Strings -/

lemma hexValue?_digitChar {n : ℕ} (hn : n < 16) : hexValue? n.digitChar = some n := by
  interval_cases n <;> decide

lemma hex_one {n : ℕ} (hn : n < 16) : Text.hex 1 n = [n.digitChar] := by
  rw [Text.hex, Nat.toDigits_of_lt_base hn]
  rfl

lemma hex_succ {w n : ℕ} (hw : 0 < w) (hn : n < 16 ^ (w + 1)) :
    Text.hex (w + 1) n = Text.hex w (n / 16) ++ [(n % 16).digitChar] := by
  rcases Nat.lt_or_ge n 16 with hlt | hge
  · have hzero : n / 16 = 0 := by omega
    have hmod : n % 16 = n := by omega
    obtain ⟨k, rfl⟩ : ∃ k, w = k + 1 := ⟨w - 1, by omega⟩
    rw [Text.hex, Text.hex, hzero, hmod, Nat.toDigits_of_lt_base hlt, Nat.toDigits_zero]
    simp [List.replicate_succ']
  · have hlength : (Nat.toDigits 16 (n / 16)).length ≤ w := by
      rw [Nat.length_toDigits_le_iff (by decide) hw]
      rw [pow_succ] at hn
      omega
    have hstep := Nat.toDigits_of_base_le (b := 16) (by decide) hge
    rw [Text.hex, Text.hex, hstep, List.length_append, List.length_singleton, Nat.add_sub_add_right,
      List.append_assoc]

lemma hex_four {n : ℕ} (hn : n < 65536) :
    Text.hex 4 n = [(n / 4096).digitChar, (n / 256 % 16).digitChar, (n / 16 % 16).digitChar,
      (n % 16).digitChar] := by
  rw [hex_succ (by decide) (by omega), hex_succ (by decide) (by omega),
    hex_succ (by decide) (by omega), hex_one (by omega)]
  have hfirst : n / 16 / 16 / 16 = n / 4096 := by omega
  have hsecond : n / 16 / 16 = n / 256 := by omega
  rw [hfirst, hsecond]
  rfl

lemma hexNumber?_hex {n : ℕ} (hn : n < 65536) : hexNumber? (Text.hex 4 n) = some n := by
  rw [hex_four hn]
  have hmod : ∀ m, m % 16 < 16 := fun m => Nat.mod_lt m (by decide)
  have hfirst : n / 4096 < 16 := by omega
  simp only [hexNumber?, List.foldlM_cons, List.foldlM_nil, hexValue?_digitChar hfirst,
    hexValue?_digitChar (hmod _), Option.map_some, Option.bind_eq_bind, Option.bind_some,
    Option.pure_def, Option.some.injEq]
  omega

lemma toNat_valid (c : Char) : c.toNat < 0xd800 ∨ 0xdfff < c.toNat ∧ c.toNat < 0x110000 := c.valid

lemma codePoint_toNat (c : Char) :
    isHighSurrogate c.toNat = false ∧ codePoint c.toNat = c := by
  have hvalid := toNat_valid c
  have hhigh : isHighSurrogate c.toNat = false := by
    simp [isHighSurrogate]
    omega
  have hlow : isLowSurrogate c.toNat = false := by
    simp [isLowSurrogate]
    omega
  rw [codePoint, hhigh, hlow]
  exact ⟨rfl, Char.ofNat_toNat c⟩

lemma length_hex {n : ℕ} (hn : n < 65536) : (Text.hex 4 n).length = 4 := by
  rw [hex_four hn]
  rfl

lemma unicode_unit {n : ℕ} (hn : n < 65536) (hhigh : isHighSurrogate n = false)
    {rest : List Char} (hne : rest ≠ []) :
    unicode ('u' :: (Text.hex 4 n ++ rest)) = .ok (codePoint n, 5) := by
  have hlength := length_hex hn
  have htake : (Text.hex 4 n ++ rest).take 4 = Text.hex 4 n := List.take_left' hlength
  have hdrop : (Text.hex 4 n ++ rest).drop 4 = rest := List.drop_left' hlength
  have hempty : rest.isEmpty = false := by simpa using hne
  simp only [unicode, List.drop_succ_cons, List.drop_zero, htake, hdrop, hempty, Bool.false_eq_true,
    if_false, hexNumber?_hex hn, hhigh, Bool.false_and]

lemma lt_of_high {n : ℕ} (h : isHighSurrogate n = true) : n < 65536 := by
  simp [isHighSurrogate] at h
  omega

lemma lt_of_low {n : ℕ} (h : isLowSurrogate n = true) : n < 65536 := by
  simp [isLowSurrogate] at h
  omega

lemma unicode_pair {high low : ℕ} (hhigh : isHighSurrogate high = true)
    (hlow : isLowSurrogate low = true) {rest : List Char} (hne : rest ≠ []) :
    unicode ('u' :: (Text.hex 4 high ++ '\\' :: 'u' :: (Text.hex 4 low ++ rest))) =
      .ok (Char.ofNat (0x10000 + (high - 0xd800) * 0x400 + (low - 0xdc00)), 11) := by
  have hlength := length_hex (lt_of_high hhigh)
  have hlength' := length_hex (lt_of_low hlow)
  generalize hmore : '\\' :: 'u' :: (Text.hex 4 low ++ rest) = more
  have htake : (Text.hex 4 high ++ more).take 4 = Text.hex 4 high := List.take_left' hlength
  have hdrop : (Text.hex 4 high ++ more).drop 4 = more := List.drop_left' hlength
  have hempty : more.isEmpty = false := by rw [← hmore]; rfl
  have hdrop' : more.drop 6 = rest := by
    rw [← hmore]
    exact List.drop_left' hlength'
  have htake' : (more.drop 2).take 4 = Text.hex 4 low := by
    rw [← hmore]
    exact List.take_left' hlength'
  have hstart : more.take 2 = ['\\', 'u'] := by rw [← hmore]; rfl
  have hempty' : rest.isEmpty = false := by simpa using hne
  simp only [unicode, List.drop_succ_cons, List.drop_zero, htake, hdrop, hempty, hdrop', htake',
    hstart, hempty', Bool.false_eq_true, if_false, hexNumber?_hex (lt_of_high hhigh),
    hexNumber?_hex (lt_of_low hlow), hhigh, hlow, Bool.not_false, Bool.true_and, beq_self_eq_true, if_true]

lemma unitEscape_eq (n : ℕ) : unitEscape n = '\\' :: 'u' :: Text.hex 4 n := rfl

lemma unicodeEscape_unit {c : Char} (h : c.toNat < 0x10000) :
    unicodeEscape c = '\\' :: 'u' :: Text.hex 4 c.toNat := by
  simp only [unicodeEscape]
  rw [if_pos h, unitEscape_eq]

lemma unicodeEscape_pair {c : Char} (h : ¬ c.toNat < 0x10000) : ∃ high low,
    isHighSurrogate high = true ∧ isLowSurrogate low = true ∧
      0x10000 + (high - 0xd800) * 0x400 + (low - 0xdc00) = c.toNat ∧
      unicodeEscape c = '\\' :: 'u' :: (Text.hex 4 high ++ '\\' :: 'u' :: Text.hex 4 low) := by
  have hvalid := toNat_valid c
  refine ⟨0xd800 + (c.toNat - 0x10000) / 0x400, 0xdc00 + (c.toNat - 0x10000) % 0x400,
    ?_, ?_, ?_, ?_⟩
  · simp [isHighSurrogate]
    omega
  · simp [isLowSurrogate]
    omega
  · omega
  · simp only [unicodeEscape]
    rw [if_neg h, unitEscape_eq, unitEscape_eq, List.cons_append, List.cons_append]

/-- The escape of a character is read as the character. -/
lemma unicode_escape (c : Char) {rest : List Char} (hne : rest ≠ []) :
    ∃ size more, unicodeEscape c = '\\' :: 'u' :: more ∧
      unicode ('u' :: (more ++ rest)) = .ok (c, size) ∧
      ('u' :: (more ++ rest)).drop size = rest := by
  by_cases hlt : c.toNat < 0x10000
  · obtain ⟨hhigh, hcode⟩ := codePoint_toNat c
    refine ⟨5, Text.hex 4 c.toNat, unicodeEscape_unit hlt, ?_, ?_⟩
    · rw [unicode_unit hlt hhigh hne, hcode]
    · rw [List.drop_succ_cons, List.drop_left' (length_hex hlt)]
  · obtain ⟨high, low, hhigh, hlow, hsum, htext⟩ := unicodeEscape_pair hlt
    refine ⟨11, _, htext, ?_, ?_⟩
    · rw [List.append_assoc, List.cons_append, List.cons_append, unicode_pair hhigh hlow hne, hsum,
        Char.ofNat_toNat]
    · rw [List.drop_succ_cons, List.drop_left']
      simp [length_hex (lt_of_high hhigh), length_hex (lt_of_low hlow)]

variable {opening read : List Char} {fuel : ℕ}

lemma string_simple {e d : Char} (h : simpleEscape? e = some d) :
    string opening (fuel + 1) read ('\\' :: e :: rest) = string opening fuel (d :: read) rest := by
  rw [string, h]
  rintro rfl
  cases h

lemma string_plain {c : Char} (hquote : c ≠ '"') (hslash : c ≠ '\\') (hc : ¬ c.toNat < 0x20) :
    string opening (fuel + 1) read (c :: rest) = string opening fuel (c :: read) rest := by
  rw [string, if_neg hc]
  · exact hquote
  · exact hslash

lemma string_unicode {more : List Char} {c : Char} {size : ℕ}
    (h : unicode ('u' :: more) = .ok (c, size)) :
    string opening (fuel + 1) read ('\\' :: 'u' :: more) =
      string opening fuel (c :: read) (('u' :: more).drop size) := by
  simp [string, h, bind, Except.bind]

lemma string_writeChar (ascii : Bool) (c : Char) (hne : rest ≠ []) :
    string opening (fuel + 1) read (writeChar ascii c ++ rest) =
      string opening fuel (c :: read) rest := by
  obtain ⟨size, more, hescape, hread, hleft⟩ := unicode_escape c hne
  rw [writeChar]
  split_ifs with hquote hn hr ht hb hf hescaped
  · rcases hquote with rfl | rfl
    · exact string_simple rfl
    · exact string_simple rfl
  · subst hn
    exact string_simple rfl
  · subst hr
    exact string_simple rfl
  · subst ht
    exact string_simple rfl
  · subst hb
    exact string_simple rfl
  · subst hf
    exact string_simple rfl
  · rw [hescape, List.cons_append, List.cons_append, string_unicode hread, hleft]
  · obtain ⟨hquote, hslash⟩ := not_or.mp hquote
    exact string_plain hquote hslash (not_or.mp hescaped).1

lemma string_written (ascii : Bool) (cs : List Char) (hfuel : cs.length < fuel) :
    string opening fuel read (cs.flatMap (writeChar ascii) ++ '"' :: rest) =
      .ok (String.ofList (read.reverse ++ cs), rest) := by
  induction cs generalizing fuel read with
  | nil =>
    obtain ⟨fuel, rfl⟩ : ∃ k, fuel = k + 1 := ⟨fuel - 1, by simp at hfuel; omega⟩
    simp [string]
  | cons c cs ih =>
    obtain ⟨fuel, rfl⟩ : ∃ k, fuel = k + 1 := ⟨fuel - 1, by simp at hfuel; omega⟩
    rw [List.flatMap_cons, List.append_assoc, string_writeChar ascii c (by simp),
      ih (by simpa using hfuel), List.reverse_cons, List.append_assoc, List.singleton_append]

lemma toList_string (f : Spelling) (s : String) :
    (f.string s).toList = '"' :: (s.toList.flatMap (writeChar f.asciiOnly) ++ ['"']) := by
  rw [Spelling.string, String.toList_ofList, List.cons_append]

lemma length_writeChar (ascii : Bool) (c : Char) : 1 ≤ (writeChar ascii c).length := by
  obtain ⟨size, more, hescape, -⟩ := unicode_escape c (List.cons_ne_nil 'a' [])
  rw [writeChar]
  split_ifs <;> simp [hescape]

lemma length_string (f : Spelling) (s : String) :
    s.toList.length + 2 ≤ (f.string s).toList.length := by
  rw [toList_string, List.length_cons, List.length_append, List.length_singleton,
    List.length_flatMap]
  have hone : (s.toList.map fun _ => 1).sum ≤
      (s.toList.map fun c => (writeChar f.asciiOnly c).length).sum :=
    List.sum_le_sum fun c _ => length_writeChar f.asciiOnly c
  rw [List.map_const', List.sum_replicate, smul_eq_mul, mul_one] at hone
  omega

/-- The text of a string is read as the string. -/
theorem string_text (f : Spelling) (s : String) (fuel : ℕ) (rest : List Char)
    (hfuel : (f.string s).toList.length ≤ fuel) :
    ∃ inside, (f.string s).toList ++ rest = '"' :: inside ∧
      ∀ opening, string opening fuel [] inside = .ok (s, rest) := by
  refine ⟨s.toList.flatMap (writeChar f.asciiOnly) ++ '"' :: rest, ?_, fun opening => ?_⟩
  · rw [toList_string]
    simp
  · have hlength := length_string f s
    rw [string_written _ _ (by omega), List.reverse_nil, List.nil_append, String.ofList_toList]

variable {cs : List Char} {r : Json × List Char}

lemma value_of_number (h : number limit cs = .ok r) : value limit (fuel + 1) cs = .ok r := by
  unfold value
  split <;> first | exact h | (simp [number, isAsciiDigit, stop] at h)

def Opens (cs : List Char) : Prop :=
  ∀ c ∈ cs.head?, c ∉ [' ', '\t', '\n', '\r', ']', '\x7d', '\ufeff']

lemma opens_of_value (h : value limit (fuel + 1) cs = .ok r) : Opens cs := by
  intro c hc
  cases cs with
  | nil => cases hc
  | cons d cs =>
    obtain rfl := Option.some.inj hc
    intro hmem
    fin_cases hmem <;> simp [value, number, isAsciiDigit, stop] at h

lemma skipSpace_of_opens (h : Opens cs) : skipSpace cs = cs := by
  cases cs with
  | nil => rfl
  | cons c cs =>
    have hc := h c rfl
    rw [skipSpace, List.dropWhile_cons_of_neg]
    simp_all

end Reader

/-- A value whose text says all of it: it has no two members of one name in an object, its integers
are short enough for the reader, and its other numbers are those that texts denote. -/
inductive Legible (limit : ℕ) : Json → Prop
  | null : Legible limit .null
  | bool (b : Bool) : Legible limit (.bool b)
  | int {n : ℤ} (h : (Nat.toDigits 10 n.natAbs).length ≤ limit) : Legible limit (.int n)
  | float {x : Floating} (h : x.Legible) : Legible limit (.float x)
  | str (s : String) : Legible limit (.str s)
  | arr {xs : List Json} (h : ∀ x ∈ xs, Legible limit x) : Legible limit (.arr xs)
  | obj {ms : Keyed Json} (hn : (Keyed.keys ms).Nodup) (h : ∀ e ∈ ms, Legible limit e.2) :
    Legible limit (.obj ms)

variable {f : Spelling} {limit fuel : ℕ} {x : Json} {xs : List Json} {e : String × Json}
  {ms read : Keyed Json} {rest : List Char}

lemma lineItems_eq : lineItems f xs = xs.map f.line := by
  induction xs <;> simp_all [lineItems]

lemma lineMembers_eq : lineMembers f ms = ms.map fun e => f.string e.1 ++ ": " ++ f.line e.2 := by
  induction ms <;> simp_all [lineMembers]

lemma lineMembers_cons : lineMembers f (e :: ms) =
    (f.string e.1 ++ ": " ++ f.line e.2) :: lineMembers f ms := rfl

lemma toList_arr (f : Spelling) (xs : List Json) :
    (f.line (.arr xs)).toList = '[' :: ((join ", " (lineItems f xs)).toList ++ [']']) := by
  simp [Spelling.line]

lemma toList_obj (f : Spelling) (ms : Keyed Json) :
    (f.line (.obj ms)).toList = '\x7b' :: ((join ", " (lineMembers f ms)).toList ++ ['\x7d']) := by
  simp [Spelling.line]

lemma join_cons_cons (a b : String) (l : List String) :
    (join ", " (a :: b :: l)).toList = a.toList ++ ',' :: ' ' :: (join ", " (b :: l)).toList := by
  simp [join]

lemma join_singleton (a : String) : (join ", " [a]).toList = a.toList := by
  simp [join]

namespace Reader

/-- The line of a value is read as the value. -/
def Reads (f : Spelling) (limit : ℕ) (x : Json) : Prop :=
  ∀ ⦃fuel rest⦄, Stops rest → 2 * (f.line x).toList.length ≤ fuel →
    value limit fuel ((f.line x).toList ++ rest) = .ok (x, rest)

lemma stops_nil : Stops [] := by simp [Stops]

lemma stops_of_mem {c : Char} (h : c ∈ [',', ']', '\x7d']) : Stops (c :: rest) := by
  intro d hd
  obtain rfl := Option.some.inj hd
  fin_cases h <;> decide

lemma Reads.opens (h : Reads f limit x) (hrest : Stops rest) :
    Opens ((f.line x).toList ++ rest) :=
  opens_of_value (h hrest (Nat.le_succ _))

variable {cs : List Char}

lemma skipSpace_blank (h : Opens cs) : skipSpace (' ' :: cs) = cs := skipSpace_of_opens h

lemma skipSpace_comma : skipSpace (',' :: cs) = ',' :: cs := rfl

lemma skipSpace_colon : skipSpace (':' :: cs) = ':' :: cs := rfl

lemma skipSpace_bracket : skipSpace (']' :: cs) = ']' :: cs := rfl

lemma skipSpace_brace : skipSpace ('\x7d' :: cs) = '\x7d' :: cs := rfl

lemma items_last {read : List Json} (h : value limit fuel cs = .ok (x, ']' :: rest)) :
    items limit (fuel + 1) read cs = .ok (.arr (x :: read).reverse, rest) := by
  rw [items, h]
  simp only [bind, Except.bind, skipSpace_bracket, pure, Except.pure]

lemma items_more {read : List Json} (h : value limit fuel cs = .ok (x, ',' :: ' ' :: rest))
    (hrest : Opens rest) : items limit (fuel + 1) read cs = items limit fuel (x :: read) rest := by
  rw [items, h]
  simp only [bind, Except.bind, skipSpace_comma, skipSpace_blank hrest]

section

variable {name : String} {inside : List Char}
  (hname : string ('"' :: inside) fuel [] inside = .ok (name, ':' :: ' ' :: cs)) (hcs : Opens cs)

include hname hcs

lemma members_last (h : value limit fuel cs = .ok (x, '\x7d' :: rest)) :
    members limit (fuel + 1) read ('"' :: inside) = .ok (.obj (Keyed.set read name x), rest) := by
  rw [members, hname]
  simp only [bind, Except.bind, skipSpace_colon, skipSpace_blank hcs, h, skipSpace_brace, pure,
    Except.pure]

lemma members_more (h : value limit fuel cs = .ok (x, ',' :: ' ' :: rest)) (hrest : Opens rest) :
    members limit (fuel + 1) read ('"' :: inside) =
      members limit fuel (Keyed.set read name x) rest := by
  rw [members, hname]
  simp only [bind, Except.bind, skipSpace_colon, skipSpace_blank hcs, h, skipSpace_comma,
    skipSpace_blank hrest]

end

lemma items_line (fuel : ℕ) (read : List Json) (rest : List Char)
    (h : ∀ y ∈ x :: xs, Reads f limit y) (hfuel : 2 * (join ", " (lineItems f (x :: xs))).toList.length < fuel) :
    Opens ((join ", " (lineItems f (x :: xs))).toList ++ ']' :: rest) ∧
      items limit fuel read ((join ", " (lineItems f (x :: xs))).toList ++ ']' :: rest) =
        .ok (.arr (read.reverse ++ x :: xs), rest) := by
  obtain ⟨fuel, rfl⟩ : ∃ k, fuel = k + 1 := ⟨fuel - 1, by omega⟩
  obtain ⟨hx, hxs⟩ := List.forall_mem_cons.mp h
  induction xs generalizing x fuel read with
  | nil =>
    rw [lineItems, lineItems, join_singleton] at hfuel ⊢
    have hstop : Stops (']' :: rest) := stops_of_mem (by simp)
    refine ⟨hx.opens hstop, ?_⟩
    rw [items_last (hx hstop (by omega)), List.reverse_cons]
  | cons y ys ih =>
    rw [lineItems, lineItems, join_cons_cons, ← lineItems] at hfuel ⊢
    rw [List.append_assoc, List.cons_append, List.cons_append]
    simp only [List.length_append, List.length_cons] at hfuel
    obtain ⟨fuel, rfl⟩ : ∃ k, fuel = k + 1 := ⟨fuel - 1, by omega⟩
    have hy := List.forall_mem_cons.mp hxs
    obtain ⟨hopens, hitems⟩ := ih (x :: read) hxs fuel (by omega) hy.1 hy.2
    have hstop : Stops (',' :: ' ' ::
        ((join ", " (lineItems f (y :: ys))).toList ++ ']' :: rest)) := stops_of_mem (by simp)
    refine ⟨hx.opens hstop, ?_⟩
    rw [items_more (hx hstop (by omega)) hopens, hitems, List.reverse_cons, List.append_assoc,
      List.singleton_append]

lemma toList_member (f : Spelling) (k : String) (x : Json) :
    (f.string k ++ ": " ++ f.line x).toList =
      (f.string k).toList ++ ':' :: ' ' :: (f.line x).toList := by
  simp

lemma set_of_nodup (hn : (Keyed.keys (read ++ e :: ms)).Nodup) :
    Keyed.set read e.1 e.2 = read ++ [e] := by
  refine Keyed.set_of_not_mem fun hmem => ?_
  rw [Keyed.keys, List.map_append, List.nodup_append] at hn
  exact hn.2.2 e.1 hmem e.1 (by simp) rfl

lemma opens_quote : Opens ('"' :: cs) := by
  intro c hc
  obtain rfl := Option.some.inj hc
  decide

lemma members_line (fuel : ℕ) (read : Keyed Json) (rest : List Char)
    (h : ∀ d ∈ e :: ms, Reads f limit d.2) (hn : (Keyed.keys (read ++ e :: ms)).Nodup)
    (hfuel : 2 * (join ", " (lineMembers f (e :: ms))).toList.length < fuel) :
    Opens ((join ", " (lineMembers f (e :: ms))).toList ++ '\x7d' :: rest) ∧
      members limit fuel read ((join ", " (lineMembers f (e :: ms))).toList ++ '\x7d' :: rest) =
        .ok (.obj (read ++ e :: ms), rest) := by
  obtain ⟨fuel, rfl⟩ : ∃ k, fuel = k + 1 := ⟨fuel - 1, by omega⟩
  obtain ⟨hx, hxs⟩ := List.forall_mem_cons.mp h
  induction ms generalizing e fuel read with
  | nil =>
    rw [lineMembers_cons, lineMembers, join_singleton, toList_member] at hfuel ⊢
    simp only [List.length_append, List.length_cons] at hfuel
    simp only [List.append_assoc, List.cons_append]
    have hstop : Stops ('\x7d' :: rest) := stops_of_mem (by simp)
    obtain ⟨inside, htext, hname⟩ := string_text f e.1 fuel
      (':' :: ' ' :: ((f.line e.2).toList ++ '\x7d' :: rest)) (by omega)
    rw [htext]
    refine ⟨opens_quote, ?_⟩
    rw [members_last (hname _) (hx.opens hstop) (hx hstop (by omega)), set_of_nodup hn]
  | cons d ds ih =>
    rw [lineMembers_cons, lineMembers_cons, join_cons_cons, ← lineMembers_cons, toList_member]
      at hfuel ⊢
    simp only [List.length_append, List.length_cons] at hfuel
    simp only [List.append_assoc, List.cons_append]
    obtain ⟨fuel, rfl⟩ : ∃ k, fuel = k + 1 := ⟨fuel - 1, by omega⟩
    have hy := List.forall_mem_cons.mp hxs
    have hread : read ++ e :: d :: ds = (read ++ [e]) ++ d :: ds := by simp
    obtain ⟨hopens, hmembers⟩ := ih (read ++ [e]) hxs (hread ▸ hn) fuel (by omega) hy.1 hy.2
    have hstop : Stops (',' :: ' ' ::
        ((join ", " (lineMembers f (d :: ds))).toList ++ '\x7d' :: rest)) := stops_of_mem (by simp)
    obtain ⟨inside, htext, hname⟩ := string_text f e.1 (fuel + 1)
      (':' :: ' ' :: ((f.line e.2).toList ++ ',' :: ' ' ::
        ((join ", " (lineMembers f (d :: ds))).toList ++ '\x7d' :: rest))) (by omega)
    rw [htext]
    refine ⟨opens_quote, ?_⟩
    rw [members_more (hname _) (hx.opens hstop) (hx hstop (by omega)) hopens, set_of_nodup hn,
      hmembers, hread]

lemma Reads.of_succ (h : ∀ ⦃fuel rest⦄, Stops rest → 2 * (f.line x).toList.length ≤ fuel + 1 →
    value limit (fuel + 1) ((f.line x).toList ++ rest) = .ok (x, rest)) : Reads f limit x := by
  intro fuel rest hrest hfuel
  cases fuel with
  | succ fuel => exact h hrest hfuel
  | zero =>
    have hempty : (f.line x).toList = [] := List.eq_nil_of_length_eq_zero (by omega)
    have hnone := @h 0 [] stops_nil (by simp [hempty])
    rw [hempty] at hnone
    cases hnone

lemma reads_float {x : Floating} (hf : f.number = plainNumber) (h : x.Legible) :
    Reads f limit (.float x) := by
  refine .of_succ fun fuel rest hrest _ => ?_
  have hline : f.line (.float x) = plainNumber x := by
    rw [← hf]
    rfl
  rw [hline]
  cases x with
  | finite x => exact value_of_number (number_text h hrest)
  | infinite negative => cases negative <;> simp [plainNumber, Floating.spell, value]
  | nan named =>
    obtain rfl : named = true := h
    simp [plainNumber, Floating.spell, value]

lemma reads_str (s : String) : Reads f limit (.str s) := by
  refine .of_succ fun fuel rest hrest hfuel => ?_
  have hlength := length_string f s
  have hline : f.line (.str s) = f.string s := rfl
  rw [hline] at hfuel ⊢
  obtain ⟨inside, htext, hstring⟩ := string_text f s fuel rest (by omega)
  rw [htext]
  simp [value, hstring, bind, Except.bind, pure, Except.pure]

lemma value_items (h : Opens cs) : value limit (fuel + 1) ('[' :: cs) = items limit fuel [] cs := by
  rw [value, skipSpace_of_opens h]
  split
  · exact absurd (h _ rfl) (by decide)
  · rfl

lemma value_members (h : Opens cs) :
    value limit (fuel + 1) ('\x7b' :: cs) = members limit fuel [] cs := by
  rw [value, skipSpace_of_opens h]
  split
  · exact absurd (h _ rfl) (by decide)
  · rfl

lemma reads_arr (h : ∀ y ∈ xs, Reads f limit y) : Reads f limit (.arr xs) := by
  refine .of_succ fun fuel rest hrest hfuel => ?_
  cases xs with
  | nil => simp [Spelling.line, lineItems, join, value, skipSpace_bracket]
  | cons y ys =>
    rw [toList_arr, List.length_cons, List.length_append, List.length_singleton] at hfuel
    obtain ⟨hopens, hitems⟩ := items_line fuel [] rest h (by omega)
    rw [toList_arr, List.cons_append, List.append_assoc, List.singleton_append, value_items hopens,
      hitems]
    rfl

lemma reads_obj (hn : (Keyed.keys ms).Nodup) (h : ∀ d ∈ ms, Reads f limit d.2) :
    Reads f limit (.obj ms) := by
  refine .of_succ fun fuel rest hrest hfuel => ?_
  cases ms with
  | nil => simp [Spelling.line, lineMembers, join, value, skipSpace_brace]
  | cons d ds =>
    rw [toList_obj, List.length_cons, List.length_append, List.length_singleton] at hfuel
    obtain ⟨hopens, hmembers⟩ := members_line fuel [] rest h hn (by omega)
    rw [toList_obj, List.cons_append, List.append_assoc, List.singleton_append,
      value_members hopens, hmembers]
    rfl

theorem reads_line (hf : f.number = plainNumber) (h : Legible limit x) : Reads f limit x := by
  induction h with
  | null => exact .of_succ fun _ _ _ _ => by simp [Spelling.line, Spelling.scalar, value]
  | bool b =>
    refine .of_succ fun _ _ _ _ => ?_
    cases b <;> simp [Spelling.line, Spelling.scalar, value]
  | int h => exact .of_succ fun _ _ hrest _ => value_of_number (number_toString _ hrest h)
  | float h => exact reads_float hf h
  | str s => exact reads_str s
  | arr _ ih => exact reads_arr ih
  | obj hn _ ih => exact reads_obj hn ih

end Reader

/-- What is written on one line is read back. -/
theorem read_line (hf : f.number = plainNumber) (h : Legible limit x) :
    readWithin limit (f.line x) = .ok x := by
  have hreads := Reader.reads_line hf h
  have hopens : Reader.Opens (f.line x).toList := by
    simpa using hreads.opens Reader.stops_nil
  have hdocument : Reader.document limit (f.line x).toList = .ok x := by
    have hvalue := @hreads (Reader.enough (f.line x).toList) [] Reader.stops_nil
      (by simp [Reader.enough])
    rw [List.append_nil] at hvalue
    rw [Reader.document, Reader.skipSpace_of_opens hopens, hvalue]
    rfl
  rw [readWithin]
  split
  · rename_i heq
    rw [heq] at hopens
    exact absurd (hopens _ rfl) (by decide)
  · rw [hdocument]

/-! What is read is legible -/

namespace Reader

lemma natural_lt {cs : List Char} (h : ∀ c ∈ cs, c.isDigit = true) :
    natural cs < 10 ^ cs.length := by
  induction cs using List.reverseRecOn with
  | nil => decide
  | append_singleton cs c ih =>
    obtain ⟨hcs, hc⟩ := List.forall_mem_append.mp h
    have hlt := ih hcs
    have hdigit : natural [c] ≤ 9 := by
      have hc' := Char.isDigit_iff_toNat.mp (hc c List.mem_cons_self)
      have hnine : '9'.toNat = 57 := rfl
      simp [natural]
      omega
    rw [natural_append, List.length_append, List.length_singleton, pow_succ]
    omega

lemma legible_ofDecimal (negative : Bool) (n : ℕ) (e : ℤ) :
    (Floating.ofDecimal negative n e).Legible := by
  rw [Floating.ofDecimal]
  cases h : Binary64.ofDecimal negative n e with
  | none => trivial
  | some x => exact Binary64.proper_of_ofDecimal h

lemma legible_of_parts {whole tail : List Char} {p : Prop} [Decidable p] {n : ℤ} {y : Floating}
    (hdigits : ∀ c ∈ whole, c.isDigit = true) (hne : ¬ whole.isEmpty = true)
    (hn : n.natAbs = natural whole) (hy : y.Legible)
    (h : (if p then
        if limit < whole.length then .error (Stop.longNumber whole.length) else .ok (.int n, tail)
      else .ok (.float y, tail)) = Except.ok (x, rest)) : Legible limit x := by
  have hpos : 0 < whole.length := List.length_pos_iff.mpr (by simpa using hne)
  have hlength : (Nat.toDigits 10 (natural whole)).length ≤ whole.length :=
    (Nat.length_toDigits_le_iff (by decide) hpos).mpr (natural_lt hdigits)
  split at h
  · split at h
    · cases h
    · cases h
      exact .int (by rw [hn]; omega)
  · cases h
    exact .float hy

lemma legible_number {cs rest : List Char} (h : number limit cs = .ok (x, rest)) :
    Legible limit x := by
  have habs : ∀ (negative : Bool) (n : ℕ), (if negative then -(n : ℤ) else n).natAbs = n := by
    intro negative n
    split <;> omega
  unfold number at h
  split at h
  dsimp only at h
  split at h
  · rw [if_neg (by decide)] at h
    exact legible_of_parts isDigit_zero (by decide) (habs _ _) (legible_ofDecimal _ _ _) h
  · split at h
    · cases h
    · rename_i hne
      exact legible_of_parts (fun c hc => List.mem_takeWhile_imp hc) hne (habs _ _)
        (legible_ofDecimal _ _ _) h

lemma makes_legible (limit : ℕ) : Makes limit (Legible limit) where
  null := .null
  bool := .bool
  str := .str
  nan := .float rfl
  infinite _ := .float trivial
  number := legible_number
  arr := .arr
  obj := .obj

end Reader

theorem legible_of_read {text : String} (h : readWithin limit text = .ok x) : Legible limit x :=
  of_read (Reader.makes_legible limit) h

theorem read_again {text : String} (hf : f.number = plainNumber)
    (h : readWithin limit text = .ok x) : readWithin limit (f.line x) = .ok x :=
  read_line hf (legible_of_read h)

lemma length_le_join {p : String} {parts : List String} (h : p ∈ parts) :
    p.toList.length ≤ (join ", " parts).toList.length := by
  induction parts with
  | nil => cases h
  | cons a l ih =>
    cases l with
    | nil => rw [List.mem_singleton.mp h, join_singleton]
    | cons b l =>
      rw [join_cons_cons, List.length_append, List.length_cons, List.length_cons]
      rcases List.mem_cons.mp h with rfl | h
      · omega
      · have := ih h
        omega

lemma length_item (h : x ∈ xs) : (f.line x).toList.length ≤ (f.line (.arr xs)).toList.length := by
  have hjoin : (f.line x).toList.length ≤ (join ", " (lineItems f xs)).toList.length :=
    length_le_join (by rw [lineItems_eq]; exact List.mem_map_of_mem h)
  rw [toList_arr, List.length_cons, List.length_append]
  omega

lemma length_member (h : e ∈ ms) :
    (f.line e.2).toList.length ≤ (f.line (.obj ms)).toList.length := by
  have hmem : f.string e.1 ++ ": " ++ f.line e.2 ∈ lineMembers f ms := by
    rw [lineMembers_eq]
    exact List.mem_map.mpr ⟨e, h, rfl⟩
  have hjoin := length_le_join hmem
  rw [Reader.toList_member, List.length_append, List.length_cons, List.length_cons] at hjoin
  rw [toList_obj, List.length_cons, List.length_append]
  omega

/-- The digits of an integer are in the text. -/
lemma Legible.of_length {limit' : ℕ} (h : Legible limit x)
    (hlength : (f.line x).toList.length ≤ limit') : Legible limit' x := by
  induction h with
  | null => exact .null
  | bool b => exact .bool b
  | str s => exact .str s
  | float h => exact .float h
  | @int n _ =>
    have hline : f.line (.int n) = toString n := rfl
    rw [hline, Reader.toList_toString, List.length_append] at hlength
    exact .int (by omega)
  | arr _ ih => exact .arr fun x hx => ih x hx ((length_item hx).trans hlength)
  | obj hn _ ih => exact .obj hn fun e he => ih e he ((length_member he).trans hlength)

theorem readAny_line (hf : f.number = plainNumber) (h : Legible limit x) :
    readAny (f.line x) = .ok x :=
  read_line hf (h.of_length String.length_toList.le)

lemma Legible.written (h : Legible limit x) : Legible limit x.written := by
  induction h with
  | null => exact .null
  | bool b => exact .bool b
  | int h => exact .int h
  | str s => exact .str s
  | float h =>
    rw [Json.written]
    split
    · exact .float h
    · exact .null
  | arr _ ih =>
    rw [Json.written, writtenItems_eq]
    exact .arr (List.forall_mem_map.mpr ih)
  | obj hn _ ih =>
    rw [Json.written]
    refine .obj (by rwa [keys_writtenMembers]) ?_
    rw [writtenMembers_eq]
    exact List.forall_mem_map.mpr ih

end Json

end Workflow
