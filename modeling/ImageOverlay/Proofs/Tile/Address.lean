import ImageOverlay.Proofs.Text.Pieces
import ImageOverlay.Tile.Address

set_option autoImplicit false

/-!
# Filling in a tile address

The numbers of a tile are put into its address by three replacements, one after the other. A
template is a text with holes, and `pieces` reads it in one pass from left to right. All that the
replacements do is said in terms of the pieces: each of them fills the holes of one name
(`text_fill_only`), and the text that comes of it has the same pieces but for that (`pieces_fill`).
Digits never spell a placeholder together with what stands next to them, since a placeholder is a
letter between two brackets. So it does not matter in which order the holes are filled, and it
could be done at once (`expand_simultaneous`).
-/

namespace ImageOverlay.TileAddress

open Text

/-! ## Texts with holes -/

/-- What an address leaves open. -/
inductive Hole where
  | level
  | column
  | row
deriving DecidableEq, Repr

/-- The letter a hole goes by. -/
def Hole.letter : Hole → Char
  | .level => 'z'
  | .column => 'x'
  | .row => 'y'

/-- The placeholder of a hole. -/
def Hole.mark (h : Hole) : List Char := placeholder h.letter.toString

/-- A piece of a template: one character, or a hole. -/
inductive Piece where
  | char (c : Char)
  | hole (h : Hole)
deriving DecidableEq, Repr

/-- How a piece is written in a template. -/
def Piece.text : Piece → List Char
  | .char c => [c]
  | .hole h => h.mark

/-- The template that pieces make up. -/
def text (ps : List Piece) : List Char := ps.flatMap Piece.text

/-- The hole whose placeholder a text begins with. -/
def opening? (cs : List Char) : Option Hole :=
  [Hole.level, .column, .row].find? fun h => (after? h.mark cs).isSome

/-- The pieces of a template, read in one pass. The number says how many characters of the
placeholder just read are still to be skipped. -/
def piecesFrom : (skip : ℕ) → List Char → List Piece
  | _, [] => []
  | skip + 1, _ :: cs => piecesFrom skip cs
  | 0, c :: cs =>
    match opening? (c :: cs) with
    | some h => .hole h :: piecesFrom 2 cs
    | none => .char c :: piecesFrom 0 cs

/-- The pieces of a template: a hole wherever a placeholder begins, and otherwise the characters one
by one. -/
def pieces (cs : List Char) : List Piece := piecesFrom 0 cs

/-- A piece with a number in the place of the hole, if it is one that has a number. -/
def Piece.fill (number? : Hole → Option ℕ) : Piece → List Piece
  | .char c => [.char c]
  | .hole h =>
    match number? h with
    | some n => (Decimal.digits n).map .char
    | none => [.hole h]

/-- Pieces with numbers in those holes that have one. -/
def fill (number? : Hole → Option ℕ) (ps : List Piece) : List Piece :=
  ps.flatMap (Piece.fill number?)

/-- A piece as it stands in an address whose holes are all filled. -/
def Piece.spell (number : Hole → ℕ) : Piece → List Char
  | .char c => [c]
  | .hole h => Decimal.digits (number h)

/-- The numbers of a tile, by the holes they go into. -/
def numbers (z x y : ℕ) : Hole → ℕ
  | .level => z
  | .column => x
  | .row => y

/-- Replace the placeholder of one hole. -/
def replaceHole (number : Hole → ℕ) (cs : List Char) (h : Hole) : List Char :=
  replace h.mark (Decimal.digits (number h)) cs

variable {cs : List Char} {c : Char} {h : Hole} {number? : Hole → Option ℕ} {number : Hole → ℕ}

@[simp]
theorem text_nil : text [] = [] := rfl

@[simp]
theorem text_cons (p : Piece) (ps : List Piece) : text (p :: ps) = p.text ++ text ps :=
  List.flatMap_cons

@[simp]
theorem text_append (ps qs : List Piece) : text (ps ++ qs) = text ps ++ text qs :=
  List.flatMap_append

@[simp]
theorem text_chars (cs : List Char) : text (cs.map .char) = cs := by
  induction cs with
  | nil => rfl
  | cons c cs ih => rw [List.map_cons, text_cons, ih, Piece.text, List.singleton_append]

@[simp]
theorem fill_nil : fill number? [] = [] := rfl

@[simp]
theorem fill_cons (p : Piece) (ps : List Piece) :
    fill number? (p :: ps) = p.fill number? ++ fill number? ps :=
  List.flatMap_cons

@[simp]
theorem fill_append (ps qs : List Piece) :
    fill number? (ps ++ qs) = fill number? ps ++ fill number? qs :=
  List.flatMap_append

@[simp]
theorem fill_chars (cs : List Char) : fill number? (cs.map .char) = cs.map .char := by
  induction cs with
  | nil => rfl
  | cons c cs ih => rw [List.map_cons, fill_cons, ih, Piece.fill, List.singleton_append]

/-! ## Reading a template -/

theorem Hole.mark_eq (h : Hole) : h.mark = ['\x7b', h.letter, '\x7d'] := by
  cases h <;> rfl

theorem Hole.letter_inj {g h : Hole} (heq : g.letter = h.letter) : g = h := by
  revert heq
  cases g <;> cases h <;> decide

theorem Hole.letter_ne (h : Hole) : h.letter ≠ '\x7b' ∧ Decimal.isDigit h.letter = false := by
  cases h <;> decide

theorem opening?_eq_some_iff : opening? cs = some h ↔ h.mark <+: cs := by
  constructor
  · intro hfind
    exact (isSome_after? _ _).1 (by simpa using List.find?_some hfind)
  · rintro ⟨rest, rfl⟩
    rw [Hole.mark_eq]
    cases h <;> rfl

theorem opening?_mark (h : Hole) (cs : List Char) : opening? (h.mark ++ cs) = some h :=
  opening?_eq_some_iff.2 (List.prefix_append _ _)

theorem not_mark_of_opening? (hc : opening? cs = none) (h : Hole) : ¬ h.mark <+: cs := by
  rw [← opening?_eq_some_iff, hc]
  nofun

/-- Only a bracket begins a placeholder, and a letter and a bracket must follow. -/
theorem opening?_cons_eq_none (hc : ∀ h : Hole, c = '\x7b' → ¬ [h.letter, '\x7d'] <+: cs) :
    opening? (c :: cs) = none := by
  rw [Option.eq_none_iff_forall_ne_some]
  intro h hopen
  rw [opening?_eq_some_iff, Hole.mark_eq, List.cons_prefix_cons] at hopen
  exact hc h hopen.1.symm hopen.2

@[simp]
theorem pieces_nil : pieces [] = [] := rfl

theorem pieces_mark (h : Hole) (cs : List Char) : pieces (h.mark ++ cs) = .hole h :: pieces cs := by
  have hopen := opening?_mark h cs
  rw [Hole.mark_eq] at hopen ⊢
  simp only [List.cons_append, List.nil_append] at hopen ⊢
  rw [pieces, piecesFrom, hopen]
  rfl

theorem pieces_char (hc : opening? (c :: cs) = none) : pieces (c :: cs) = .char c :: pieces cs := by
  rw [pieces, piecesFrom, hc]
  rfl

/-- A text is empty, or it begins with a placeholder, or with a character that begins none. -/
@[elab_as_elim]
theorem template_induction {motive : List Char → Prop} (nil : motive [])
    (mark : ∀ h cs, motive cs → motive (Hole.mark h ++ cs))
    (char : ∀ c cs, opening? (c :: cs) = none → motive cs → motive (c :: cs)) (cs : List Char) :
    motive cs := by
  induction hn : cs.length using Nat.strongRecOn generalizing cs with
  | ind n ih =>
      subst hn
      cases cs with
      | nil => exact nil
      | cons c cs =>
          cases hopen : opening? (c :: cs) with
          | none => exact char c cs hopen (ih _ (by simp) cs rfl)
          | some h =>
              obtain ⟨rest, hrest⟩ := opening?_eq_some_iff.1 hopen
              have hlength : rest.length < (c :: cs).length := by
                rw [← hrest, Hole.mark_eq]
                simp
                omega
              rw [← hrest]
              exact mark h rest (ih _ hlength rest rfl)

/-- The pieces of a template make it up again. -/
theorem text_pieces (cs : List Char) : text (pieces cs) = cs := by
  induction cs using template_induction with
  | nil => rfl
  | mark h cs ih => rw [pieces_mark, text_cons, ih, Piece.text]
  | char c cs hc ih => rw [pieces_char hc, text_cons, ih, Piece.text, List.singleton_append]

theorem isPrefix_of_isPrefix_append {α : Type} {word front rest : List α} {a : α} (ha : a ∉ word)
    (h : word <+: front ++ a :: rest) : word <+: front := by
  induction front generalizing word with
  | nil =>
      cases word with
      | nil => exact List.nil_prefix
      | cons b word =>
          rw [List.nil_append, List.cons_prefix_cons] at h
          exact absurd (h.1 ▸ List.mem_cons_self) ha
  | cons b front ih =>
      cases word with
      | nil => exact List.nil_prefix
      | cons d word =>
          rw [List.cons_append, List.cons_prefix_cons] at h
          rw [List.cons_prefix_cons]
          exact ⟨h.1, ih (fun hmem => ha (List.mem_cons_of_mem _ hmem)) h.2⟩

/-- A template is cut at every placeholder. -/
theorem pieces_append_mark (before after : List Char) (h : Hole) :
    pieces (before ++ h.mark ++ after) = pieces before ++ .hole h :: pieces after := by
  induction before using template_induction with
  | nil => rw [List.nil_append, pieces_mark, pieces_nil, List.nil_append]
  | mark g before ih =>
      rw [List.append_assoc, List.append_assoc, pieces_mark, ← List.append_assoc, ih, pieces_mark,
        List.cons_append]
  | char c before hc ih =>
      have hopen : opening? (c :: (before ++ h.mark ++ after)) = none := by
        refine opening?_cons_eq_none fun g hbracket hfollow => ?_
        -- The placeholder would have to end before the one that is there begins.
        have hbefore : [g.letter, '\x7d'] <+: before := by
          rw [List.append_assoc, Hole.mark_eq h] at hfollow
          refine isPrefix_of_isPrefix_append ?_ hfollow
          simp [g.letter_ne.1.symm]
        refine not_mark_of_opening? hc g ?_
        rw [Hole.mark_eq, hbracket, List.cons_prefix_cons]
        exact ⟨rfl, hbefore⟩
      rw [List.cons_append, List.cons_append, pieces_char hopen, ih, pieces_char hc,
        List.cons_append]

/-- Text without an opening bracket is not part of a placeholder that follows. -/
theorem pieces_append_plain {ds : List Char} (hds : ∀ c ∈ ds, c ≠ '\x7b') (cs : List Char) :
    pieces (ds ++ cs) = ds.map .char ++ pieces cs := by
  induction ds with
  | nil => rfl
  | cons d ds ih =>
      obtain ⟨hd, hds⟩ := List.forall_mem_cons.1 hds
      have hopen : opening? (d :: (ds ++ cs)) = none :=
        opening?_cons_eq_none fun _ hbracket => absurd hbracket hd
      rw [List.cons_append, pieces_char hopen, ih hds, List.map_cons, List.cons_append]

/-! ## Filling holes -/

theorem digits_ne {n : ℕ} {d : Char} (hd : d ∈ Decimal.digits n) : d ≠ '\x7b' := by
  rintro rfl
  exact absurd (Decimal.isDigit_of_mem_digits hd) (by decide)

theorem fill_hole_of_some {n : ℕ} (hn : number? h = some n) :
    (Piece.hole h).fill number? = (Decimal.digits n).map .char := by
  rw [Piece.fill, hn]

theorem fill_hole_of_none (hn : number? h = none) :
    (Piece.hole h).fill number? = [.hole h] := by
  rw [Piece.fill, hn]

/-- What is put into a hole, or left there, begins with a digit or a bracket. -/
theorem head?_text_fill_hole (number? : Hole → Option ℕ) (h : Hole) (ps : List Piece) :
    ∃ d ∈ (text ((Piece.hole h).fill number? ++ ps)).head?,
      d = '\x7b' ∨ Decimal.isDigit d = true := by
  cases hn : number? h with
  | none => exact ⟨'\x7b', by rw [fill_hole_of_none hn]; rfl, .inl rfl⟩
  | some n =>
      obtain ⟨d, ds, hds⟩ := List.exists_cons_of_ne_nil (Decimal.digits_ne_nil n)
      refine ⟨d, ?_, .inr (Decimal.isDigit_of_mem_digits (hds ▸ List.mem_cons_self))⟩
      rw [fill_hole_of_some hn, text_append, text_chars, hds]
      rfl

/-- What a template with some numbers in it begins with, it has begun with before, unless there is a
digit or the bracket of a placeholder in it. -/
theorem isPrefix_of_isPrefix_fill {word : List Char}
    (hword : ∀ c ∈ word, c ≠ '\x7b' ∧ Decimal.isDigit c = false)
    (h : word <+: text (fill number? (pieces cs))) : word <+: cs := by
  induction cs using template_induction generalizing word with
  | nil => exact h
  | mark g cs ih =>
      cases word with
      | nil => exact List.nil_prefix
      | cons a word =>
          obtain ⟨d, hd, hfirst⟩ := head?_text_fill_hole number? g (fill number? (pieces cs))
          rw [pieces_mark, fill_cons] at h
          obtain ⟨rest, hrest⟩ := h
          rw [← hrest] at hd
          obtain rfl : a = d := Option.some.inj hd
          have ha := hword a List.mem_cons_self
          simp [ha.1, ha.2] at hfirst
  | char c cs hc ih =>
      cases word with
      | nil => exact List.nil_prefix
      | cons a word =>
          rw [pieces_char hc] at h
          obtain ⟨rfl, hrest⟩ := List.cons_prefix_cons.1 h
          rw [List.cons_prefix_cons]
          exact ⟨rfl, ih (fun d hd => hword d (List.mem_cons_of_mem _ hd)) hrest⟩

/-- **Digits neither make nor break a placeholder:** a template with some numbers in it has the
pieces it had, but for the holes that were filled. -/
theorem pieces_fill (number? : Hole → Option ℕ) (cs : List Char) :
    pieces (text (fill number? (pieces cs))) = fill number? (pieces cs) := by
  induction cs using template_induction with
  | nil => rfl
  | mark h cs ih =>
      rw [pieces_mark, fill_cons, text_append]
      cases hn : number? h with
      | none =>
          rw [fill_hole_of_none hn, text_cons, text_nil, List.append_nil, Piece.text, pieces_mark,
            ih, List.singleton_append]
      | some n =>
          rw [fill_hole_of_some hn, text_chars, pieces_append_plain fun _ => digits_ne, ih]
  | char c cs hc ih =>
      have hopen : opening? (c :: text (fill number? (pieces cs))) = none := by
        refine opening?_cons_eq_none fun g hbracket hfollow => ?_
        refine not_mark_of_opening? hc g ?_
        rw [Hole.mark_eq, hbracket, List.cons_prefix_cons]
        refine ⟨rfl, isPrefix_of_isPrefix_fill ?_ hfollow⟩
        simp [g.letter_ne]
        decide
      have hfill : fill number? (pieces (c :: cs)) = .char c :: fill number? (pieces cs) := by
        rw [pieces_char hc, fill_cons, Piece.fill, List.singleton_append]
      rw [hfill, text_cons, Piece.text, List.singleton_append, pieces_char hopen, ih]

/-! ## Replacements -/

variable {by_ : List Char}

theorem replace_mark (h : Hole) (by_ cs : List Char) :
    replace h.mark by_ (h.mark ++ cs) = by_ ++ replace h.mark by_ cs := by
  have hafter : (after? h.mark (h.mark ++ cs)).isSome = true :=
    (isSome_after? _ _).2 (List.prefix_append _ _)
  rw [Hole.mark_eq] at hafter ⊢
  simp only [List.cons_append, List.nil_append] at hafter ⊢
  rw [replace, replaceFrom, if_pos hafter]
  rfl

theorem replace_cons (hc : ¬ h.mark <+: c :: cs) :
    replace h.mark by_ (c :: cs) = c :: replace h.mark by_ cs := by
  rw [← isSome_after?] at hc
  rw [replace, replaceFrom, if_neg hc]
  rfl

/-- A placeholder of another hole is passed over, one character after the other. -/
theorem replace_other {g : Hole} (hg : g ≠ h) (cs : List Char) :
    replace h.mark by_ (g.mark ++ cs) = g.mark ++ replace h.mark by_ cs := by
  have hletter : h.letter ≠ g.letter := fun heq => hg (Hole.letter_inj heq).symm
  have hbracket := g.letter_ne.1
  rw [Hole.mark_eq g]
  simp only [List.cons_append, List.nil_append]
  rw [replace_cons, replace_cons, replace_cons] <;>
    simp [Hole.mark_eq h, List.cons_prefix_cons, hletter, hbracket.symm]

/-- The numbers of the holes of a list. -/
def among (order : List Hole) (number : Hole → ℕ) (h : Hole) : Option ℕ :=
  if h ∈ order then some (number h) else none

/-- **One replacement fills the holes of one name.** -/
theorem replaceHole_eq (number : Hole → ℕ) (cs : List Char) (h : Hole) :
    replaceHole number cs h = text (fill (among [h] number) (pieces cs)) := by
  unfold replaceHole
  induction cs using template_induction with
  | nil => rfl
  | mark g cs ih =>
      rw [pieces_mark, fill_cons, text_append]
      by_cases hg : g = h
      · have hn : among [h] number g = some (number h) := by
          rw [hg]
          exact if_pos (List.mem_singleton_self h)
        rw [fill_hole_of_some hn, text_chars, hg, replace_mark, ih]
      · have hn : among [h] number g = none := if_neg (by simpa using hg)
        rw [fill_hole_of_none hn, text_cons, text_nil, List.append_nil, Piece.text,
          replace_other hg, ih]
  | char c cs hc ih =>
      rw [replace_cons (not_mark_of_opening? hc h), ih, pieces_char hc, fill_cons, text_append]
      rfl

/-- Holes are filled in turn as they would be at once. -/
theorem fill_fill (first second : Hole → Option ℕ) (ps : List Piece) :
    fill second (fill first ps) = fill (fun h => (first h).or (second h)) ps := by
  induction ps with
  | nil => rfl
  | cons p ps ih =>
      rw [fill_cons, fill_append, ih, fill_cons]
      congr 1
      cases p with
      | char c => rfl
      | hole h =>
          cases hn : first h with
          | none => simp [Piece.fill, hn]
          | some n => simp [Piece.fill, hn]

/-- Whichever holes are filled and in whatever order, the result is that of filling them at once. -/
theorem foldl_replaceHole (number : Hole → ℕ) (order : List Hole) (cs : List Char) :
    order.foldl (replaceHole number) cs = text (fill (among order number) (pieces cs)) := by
  induction order generalizing cs with
  | nil =>
      have hnone : (pieces cs).flatMap (Piece.fill (among [] number)) = (pieces cs).flatMap ([·]) := by
        congr 1
        funext p
        cases p <;> rfl
      rw [List.foldl_nil, fill, hnone, List.flatMap_singleton', text_pieces]
  | cons h order ih =>
      rw [List.foldl_cons, ih, replaceHole_eq, pieces_fill, fill_fill]
      congr 3
      funext g
      unfold among
      by_cases hg : g = h <;> simp [hg]

theorem text_fill_among {order : List Hole} (horder : ∀ h, h ∈ order) (ps : List Piece) :
    text (fill (among order number) ps) = ps.flatMap (Piece.spell number) := by
  induction ps with
  | nil => rfl
  | cons p ps ih =>
      rw [fill_cons, text_append, ih, List.flatMap_cons]
      congr 1
      cases p with
      | char c => rfl
      | hole h =>
          have hn : among order number h = some (number h) := if_pos (horder h)
          rw [fill_hole_of_some hn, text_chars, Piece.spell]

/-- A hole that has a number is filled. -/
theorem not_mem_fill {n : ℕ} (hn : number? h = some n) (ps : List Piece) :
    .hole h ∉ fill number? ps := by
  intro hmem
  obtain ⟨p, -, hp⟩ := List.mem_flatMap.1 hmem
  cases p with
  | char c => simp [Piece.fill] at hp
  | hole g =>
      cases hg : number? g with
      | none =>
          rw [fill_hole_of_none hg, List.mem_singleton] at hp
          obtain rfl := Piece.hole.inj hp
          rw [hn] at hg
          cases hg
      | some m => simp [fill_hole_of_some hg] at hp

/-! ## Addresses -/

/-- **Filling in an address is one simultaneous replacement.** The pieces of the template make it
up, and it is cut at every placeholder, so a piece that is none is a character outside of all
placeholders. The address of a tile has these characters in their order, and the numbers in the
place of the placeholders. Whatever replacements are made one after the other, the pieces stay as
they are but for the holes that are filled, so after all of them, in any order, the address is the
same and has no placeholder left. -/
theorem expand_simultaneous (a : TileAddress) (z x y : ℕ) :
    let template := a.template.toList
    let number := numbers z x y
    (text (pieces template) = template ∧ ∀ before h after,
      pieces (before ++ Hole.mark h ++ after) = pieces before ++ .hole h :: pieces after) ∧
    (a.expand z x y).toList = (pieces template).flatMap (Piece.spell number) ∧
    (∀ order : List Hole, pieces (order.foldl (replaceHole number) template)
      = fill (among order number) (pieces template)) ∧
    (∀ order : List Hole, (∀ h, h ∈ order) →
      order.foldl (replaceHole number) template = (a.expand z x y).toList) ∧
    ∀ h : Hole, ¬ h.mark <:+: (a.expand z x y).toList := by
  intro template number
  have hexpand : (a.expand z x y).toList
      = [Hole.level, .column, .row].foldl (replaceHole number) template := by
    rw [expand, String.toList_ofList]
    rfl
  have hall : ∀ h : Hole, h ∈ [Hole.level, .column, .row] := by
    intro h
    cases h <;> decide
  have hpieces : ∀ order : List Hole, pieces (order.foldl (replaceHole number) template)
      = fill (among order number) (pieces template) := by
    intro order
    rw [foldl_replaceHole, pieces_fill]
  refine ⟨⟨text_pieces template, ?_⟩, ?_, hpieces, ?_, ?_⟩
  · intro before h after
    exact pieces_append_mark before after h
  · rw [hexpand, foldl_replaceHole, text_fill_among hall]
  · intro order horder
    rw [hexpand, foldl_replaceHole, foldl_replaceHole, text_fill_among horder,
      text_fill_among hall]
  · rintro h ⟨before, after, hcut⟩
    -- A placeholder would be a hole of the address, but they are all filled.
    have hleft : .hole h ∈ pieces (a.expand z x y).toList := by
      rw [← hcut, pieces_append_mark]
      exact List.mem_append_right _ List.mem_cons_self
    rw [hexpand, hpieces] at hleft
    exact not_mem_fill (if_pos (hall h)) _ hleft

/-- A template with placeholders next to each other, repeated ones, and brackets that belong to
none, filled in from the row on. -/
theorem expand_simultaneous_of_strayBrackets :
    let a : TileAddress := ⟨"\x7b\x7bz\x7d\x7bx\x7dy\x7d/\x7by\x7d\x7by\x7d"⟩
    let order := [Hole.row, .level, .column]
    (∀ h, h ∈ order) ∧ a.expand 3 1 2 = "\x7b31y\x7d/22" ∧
      order.foldl (replaceHole (numbers 3 1 2)) a.template.toList = (a.expand 3 1 2).toList := by
  intro a order
  have horder : ∀ h, h ∈ order := by
    intro h
    cases h <;> decide
  have hexpand : a.expand 3 1 2 = "\x7b31y\x7d/22" := by decide +kernel
  obtain ⟨-, -, -, hany, -⟩ := expand_simultaneous a 3 1 2
  exact ⟨horder, hexpand, hany order horder⟩

end ImageOverlay.TileAddress
