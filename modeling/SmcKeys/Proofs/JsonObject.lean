import SmcKeys.Proofs.Separation

namespace SmcKeys.Text.Json

def shortEscapes : List (Char × Char) :=
  [('\x22', '\x22'), ('\\', '\\'), ('\x08', 'b'), ('\t', 't'), ('\n', 'n'), ('\x0c', 'f'),
    ('\r', 'r')]

/-- A character and how it is written between quotes. -/
inductive Escaped : Char → List Char → Prop where
  | short {c letter : Char} (h : (c, letter) ∈ shortEscapes) : Escaped c ['\\', letter]
  | control {c : Char} (h : c.toNat < 0x20) :
      Escaped c ('\\' :: 'u' :: '0' :: '0' :: Hex.letters [UInt8.ofNat c.toNat])
  | plain {c : Char} (hquote : c ≠ '\x22') (hbackslash : c ≠ '\\') : Escaped c [c]

theorem escaped_escape (c : Char) : Escaped c (escape c) := by
  by_cases hshort : ∃ p ∈ shortEscapes, p.1 = c
  · obtain ⟨p, hp, rfl⟩ := hshort
    have hescape : ∀ p ∈ shortEscapes, escape p.1 = ['\\', p.2] := by decide
    rw [hescape p hp]
    exact .short hp
  · simp only [shortEscapes, List.exists_mem_cons_iff, List.not_mem_nil, false_and, exists_false,
      or_false, not_or] at hshort
    obtain ⟨hquote, hbackslash, hb, ht, hn, hf, hr⟩ := hshort
    rw [escape, if_neg (Ne.symm hquote), if_neg (Ne.symm hbackslash), if_neg (Ne.symm hb),
      if_neg (Ne.symm ht), if_neg (Ne.symm hn), if_neg (Ne.symm hf), if_neg (Ne.symm hr)]
    split
    case isTrue hcontrol => exact .control hcontrol
    case isFalse => exact .plain (Ne.symm hquote) (Ne.symm hbackslash)

section

variable {c c' : Char} {cs cs' rest rest' : List Char}

theorem Escaped.append_ne_quote (h : Escaped c cs) : cs ++ rest ≠ '\x22' :: rest' := by
  intro hsame
  cases h with
  | short h => cases hsame
  | control h => cases hsame
  | plain hquote hbackslash => exact hquote (List.cons.inj hsame).1

theorem Escaped.append_inj (h : Escaped c cs) (h' : Escaped c' cs')
    (hsame : cs ++ rest = cs' ++ rest') : c = c' ∧ rest = rest' := by
  have hletter : ∀ p ∈ shortEscapes, p.2 ≠ 'u' ∧ ∀ q ∈ shortEscapes, p.2 = q.2 → p.1 = q.1 := by
    decide
  cases h with
  | short h =>
      cases h' with
      | short h' =>
          simp only [List.cons_append, List.nil_append, List.cons.injEq, true_and] at hsame
          exact ⟨(hletter _ h).2 _ h' hsame.1, hsame.2⟩
      | control h' => exact absurd (List.cons.inj (List.cons.inj hsame).2).1 (hletter _ h).1
      | plain hquote hbackslash => exact absurd (List.cons.inj hsame).1.symm hbackslash
  | control h =>
      cases h' with
      | short h' => exact absurd (List.cons.inj (List.cons.inj hsame).2).1.symm (hletter _ h').1
      | control h' =>
          simp only [List.cons_append, List.cons.injEq, true_and] at hsame
          -- Both are four digits long, so the digits are the same, and so is the byte.
          obtain ⟨hletters, hrest⟩ := List.append_inj hsame (by simp only [Hex.length_letters]; rfl)
          have hbyte := (List.cons.inj (Hex.letters_inj hletters)).1
          refine ⟨Char.toNat_inj.mp ?_, hrest⟩
          rw [← UInt8.toNat_ofNat_of_lt' (Nat.lt_trans h (by decide)), hbyte,
            UInt8.toNat_ofNat_of_lt' (Nat.lt_trans h' (by decide))]
      | plain hquote hbackslash => exact absurd (List.cons.inj hsame).1.symm hbackslash
  | plain hquote hbackslash =>
      cases h' with
      | short h' => exact absurd (List.cons.inj hsame).1 hbackslash
      | control h' => exact absurd (List.cons.inj hsame).1 hbackslash
      | plain hquote' hbackslash' => exact List.cons.inj hsame

theorem flatMap_escape_inj
    (h : cs.flatMap escape ++ '\x22' :: rest = cs'.flatMap escape ++ '\x22' :: rest') :
    cs = cs' ∧ rest = rest' := by
  induction cs generalizing cs' with
  | nil =>
      cases cs' with
      | nil => exact ⟨rfl, (List.cons.inj h).2⟩
      | cons c' cs' =>
          rw [List.flatMap_cons, List.append_assoc] at h
          exact absurd h.symm (escaped_escape c').append_ne_quote
  | cons c cs ih =>
      cases cs' with
      | nil =>
          rw [List.flatMap_cons, List.append_assoc] at h
          exact absurd h (escaped_escape c).append_ne_quote
      | cons c' cs' =>
          rw [List.flatMap_cons, List.flatMap_cons, List.append_assoc, List.append_assoc] at h
          obtain ⟨rfl, htail⟩ := (escaped_escape c).append_inj (escaped_escape c') h
          obtain ⟨rfl, hrest⟩ := ih htail
          exact ⟨rfl, hrest⟩

end

/-- A way to quote texts by which each is told from what is written in front of it and behind. -/
structure Legible (quote : String → String) : Prop where
  opens : ∀ text, ∃ rest, (quote text).toList = '\x22' :: rest
  append_inj : ∀ a b rest rest', (quote a).toList ++ rest = (quote b).toList ++ rest' →
    a = b ∧ rest = rest'

theorem legible_quote : Legible quote where
  opens text := ⟨_, by rw [quote, String.toList_ofList]⟩
  append_inj a b rest rest' h := by
    simp only [quote, String.toList_ofList, List.cons_append, List.append_assoc,
      List.nil_append] at h
    obtain ⟨hsame, hrest⟩ := flatMap_escape_inj (List.cons.inj h).2
    exact ⟨String.toList_inj.mp hsame, hrest⟩

section

variable {quote : String → String}

theorem Legible.decimal_append_ne (hquote : Legible quote) {n : Nat} {text : String}
    {rest rest' : List Char} : (toString n).toList ++ rest ≠ (quote text).toList ++ rest' := by
  obtain ⟨behind, hopens⟩ := hquote.opens text
  intro h
  rw [Nat.toString_eq_ofList_toDigits, String.toList_ofList, hopens] at h
  have hdigit : ∀ c ∈ Nat.toDigits 10 n, c.isDigit = true := fun _ hc =>
    Nat.isDigit_of_mem_toDigits (by decide) (by decide) hc
  cases hdigits : Nat.toDigits 10 n with
  | nil => exact Nat.toDigits_ne_nil hdigits
  | cons d ds =>
      rw [hdigits] at h hdigit
      have hmark := hdigit d List.mem_cons_self
      rw [(List.cons.inj h).1] at hmark
      cases hmark

theorem Scalar.append_inj (hquote : Legible quote) {s s' : Scalar} {rest rest' : List Char}
    (hrest : ∀ c ∈ rest.head?, c.isDigit = false) (hrest' : ∀ c ∈ rest'.head?, c.isDigit = false)
    (h : (s.render quote).toList ++ rest = (s'.render quote).toList ++ rest') :
    s = s' ∧ rest = rest' := by
  cases s with
  | number n =>
      cases s' with
      | number m =>
          obtain ⟨rfl, htold⟩ := decimal_append_inj hrest hrest' h
          exact ⟨rfl, htold⟩
      | string text => exact absurd h hquote.decimal_append_ne
  | string text =>
      cases s' with
      | number m => exact absurd h.symm hquote.decimal_append_ne
      | string text' =>
          obtain ⟨rfl, htold⟩ := hquote.append_inj _ _ _ _ h
          exact ⟨rfl, htold⟩

def memberLetters (quote : String → String) (m : String × Scalar) : List Char :=
  (quote m.1).toList ++ ':' :: (m.2.render quote).toList

def further (quote : String → String) : List (String × Scalar) → List Char
  | [] => ['\x7d']
  | m :: ms => ',' :: (memberLetters quote m ++ further quote ms)

theorem isDigit_head_further (ms : List (String × Scalar)) :
    ∀ c ∈ (further quote ms).head?, c.isDigit = false := by
  cases ms with
  | nil => simp [further]
  | cons m ms => simp [further]

theorem toList_object (ms : List (String × Scalar)) :
    (object quote ms).toList =
      '\x7b' :: ([','].intercalate (ms.map (memberLetters quote)) ++ ['\x7d']) := by
  have hletters : ∀ m : String × Scalar,
      (quote m.1 ++ ":" ++ m.2.render quote).toList = memberLetters quote m := by
    intro m
    simp [memberLetters]
  simp only [object, members, List.map_map, Function.comp_def, String.toList_append,
    String.toList_intercalate, hletters]
  rfl

theorem intercalate_memberLetters (m : String × Scalar) (ms : List (String × Scalar)) :
    [','].intercalate ((m :: ms).map (memberLetters quote)) ++ ['\x7d'] =
      memberLetters quote m ++ further quote ms := by
  induction ms generalizing m with
  | nil => simp [further]
  | cons next ms ih =>
      rw [List.map_cons, List.map_cons, List.intercalate_cons_cons, ← List.map_cons,
        List.append_assoc, ih, List.append_assoc, List.singleton_append, further]

theorem toList_object_cons (m : String × Scalar) (ms : List (String × Scalar)) :
    (object quote (m :: ms)).toList = '\x7b' :: (memberLetters quote m ++ further quote ms) := by
  rw [toList_object, intercalate_memberLetters]

end

namespace Legible

variable {quote : String → String} {m m' : String × Scalar} {ms ms' : List (String × Scalar)}

theorem object_cons_ne_nil (hquote : Legible quote) : object quote (m :: ms) ≠ object quote [] := by
  obtain ⟨behind, hopens⟩ := hquote.opens m.1
  intro h
  have hletters := congrArg String.toList h
  rw [toList_object_cons, toList_object, memberLetters, hopens] at hletters
  cases (List.cons.inj hletters).2

theorem memberLetters_append_inj (hquote : Legible quote)
    (h : memberLetters quote m ++ further quote ms = memberLetters quote m' ++ further quote ms') :
    m = m' ∧ further quote ms = further quote ms' := by
  simp only [memberLetters, List.append_assoc, List.cons_append] at h
  obtain ⟨hname, hrest⟩ := hquote.append_inj _ _ _ _ h
  obtain ⟨hscalar, htold⟩ := Scalar.append_inj hquote (isDigit_head_further ms)
    (isDigit_head_further ms') (List.cons.inj hrest).2
  exact ⟨Prod.ext hname hscalar, htold⟩

theorem further_inj (hquote : Legible quote) (h : further quote ms = further quote ms') :
    ms = ms' := by
  induction ms generalizing ms' with
  | nil =>
      cases ms' with
      | nil => rfl
      | cons m' ms' => cases h
  | cons m ms ih =>
      cases ms' with
      | nil => cases h
      | cons m' ms' =>
          obtain ⟨rfl, htold⟩ := hquote.memberLetters_append_inj (List.cons.inj h).2
          rw [ih htold]

/-- An object is told from its text, whatever its members are. -/
theorem object_inj (hquote : Legible quote) :
    object quote ms = object quote ms' ↔ ms = ms' := by
  constructor
  · intro h
    cases ms with
    | nil =>
        cases ms' with
        | nil => rfl
        | cons m' ms' => exact absurd h.symm hquote.object_cons_ne_nil
    | cons m ms =>
        cases ms' with
        | nil => exact absurd h hquote.object_cons_ne_nil
        | cons m' ms' =>
            have hletters := congrArg String.toList h
            rw [toList_object_cons, toList_object_cons] at hletters
            obtain ⟨rfl, htold⟩ :=
              hquote.memberLetters_append_inj (List.cons.inj hletters).2
            rw [hquote.further_inj htold]
  · exact congrArg (object quote)

end Legible

end SmcKeys.Text.Json
