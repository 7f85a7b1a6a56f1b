import Mathlib.Algebra.Group.Nat.Defs
import Mathlib.Data.List.Basic
import Cutout.Library.Outcomes

/-! Byte formats and their readers. A reader takes a value off the front of its input and
hands back what is left. It parses a format when it succeeds exactly on inputs that begin
with a piece of that format; such a piece is never ambiguous, whatever follows it. -/

universe u w

namespace Cutout.Library

section Words

/-- The value as a little-endian word of `width` bytes. -/
def littleEndian : Nat → Nat → List UInt8
  | 0, _ => []
  | width + 1, value => UInt8.ofNat value :: littleEndian width (value / 256)

def fromLittleEndian (bytes : List UInt8) : Nat := bytes.foldr (fun byte rest => byte.toNat + 256 * rest) 0

@[simp] theorem littleEndian_length (width value : Nat) : (littleEndian width value).length = width := by
  induction width generalizing value with
  | zero => rfl
  | succ width ih => rw [littleEndian, List.length_cons, ih]

theorem fromLittleEndian_cons (byte : UInt8) (rest : List UInt8) :
    fromLittleEndian (byte :: rest) = byte.toNat + 256 * fromLittleEndian rest := rfl

theorem fromLittleEndian_lt (bytes : List UInt8) : fromLittleEndian bytes < 256 ^ bytes.length := by
  induction bytes with
  | nil => exact Nat.one_pos
  | cons byte rest ih =>
    have small : byte.toNat < 256 := byte.toNat_lt
    rw [fromLittleEndian_cons, List.length_cons, Nat.pow_succ]
    omega

theorem fromLittleEndian_littleEndian {width value : Nat} (fits : value < 256 ^ width) :
    fromLittleEndian (littleEndian width value) = value := by
  induction width generalizing value with
  | zero =>
    rw [Nat.pow_zero] at fits
    exact (Nat.lt_one_iff.mp fits).symm
  | succ width ih =>
    have small : value / 256 < 256 ^ width := by
      rw [Nat.pow_succ] at fits
      omega
    have low : (UInt8.ofNat value).toNat = value % 256 := rfl
    rw [littleEndian, fromLittleEndian_cons, ih small, low]
    omega

theorem littleEndian_fromLittleEndian (bytes : List UInt8) :
    littleEndian bytes.length (fromLittleEndian bytes) = bytes := by
  induction bytes with
  | nil => rfl
  | cons byte rest ih =>
    have small : byte.toNat < 256 := byte.toNat_lt
    have low : UInt8.ofNat (byte.toNat + 256 * fromLittleEndian rest) = byte := by
      apply UInt8.toNat_inj.mp
      rw [UInt8.toNat_ofNat']
      omega
    have high : (byte.toNat + 256 * fromLittleEndian rest) / 256 = fromLittleEndian rest := by omega
    rw [fromLittleEndian_cons, List.length_cons, littleEndian, low, high, ih]

end Words

/-- A payload behind its length, the length a word of `width` bytes. -/
def framed (width : Nat) (payload : List UInt8) : List UInt8 := littleEndian width payload.length ++ payload

theorem framed_length (width : Nat) (payload : List UInt8) : (framed width payload).length = width + payload.length := by
  rw [framed, List.length_append, littleEndian_length]

variable {α β γ : Type u} {ε : Type w}

/-- The reader succeeds exactly on inputs that begin with a piece of the format. -/
def Parses (reader : List β → Except ε (α × List β)) (format : α → List β → Prop) : Prop :=
  ∀ input value rest, reader input = .ok (value, rest) ↔ ∃ piece, format value piece ∧ input = piece ++ rest

/-- The values of a list, one piece behind the other. -/
def Tiled (format : α → List β → Prop) : List α → List β → Prop
  | [], input => input = []
  | value :: values, input => ∃ piece rest, format value piece ∧ Tiled format values rest ∧ input = piece ++ rest

/-- One value after the other, as many as asked for. -/
def readMany (reader : List β → Except ε (α × List β)) : Nat → List β → Except ε (List α × List β)
  | 0, input => .ok ([], input)
  | count + 1, input => do
    let (value, rest) ← reader input
    let (values, rest) ← readMany reader count rest
    return (value :: values, rest)

theorem Tiled.bound {format : α → List β → Prop} {least : Nat}
    (long : ∀ value piece, format value piece → least ≤ piece.length)
    {values : List α} {input : List β} (tiled : Tiled format values input) : values.length * least ≤ input.length := by
  induction values generalizing input with
  | nil => simp only [List.length_nil, Nat.zero_mul, Nat.zero_le]
  | cons value values ih =>
    obtain ⟨piece, rest, holds, tiled, rfl⟩ := tiled
    have first := long value piece holds
    have others := ih tiled
    rw [List.length_cons, List.length_append, Nat.succ_mul]
    omega

namespace Parses
variable {reader : List β → Except ε (α × List β)} {format : α → List β → Prop}

theorem bind {next : α → List β → Except ε (γ × List β)} {later : α → γ → List β → Prop}
    (first : Parses reader format) (second : ∀ value, Parses (next value) (later value)) :
    Parses (fun input => reader input >>= fun found => next found.1 found.2)
      (fun final piece => ∃ value front back, format value front ∧ later value final back ∧ piece = front ++ back) := by
  intro input final rest
  constructor
  · intro done
    obtain ⟨⟨value, middle⟩, read, finish⟩ := bind_eq_ok.mp done
    obtain ⟨front, holds, rfl⟩ := (first _ _ _).mp read
    obtain ⟨back, behind, rfl⟩ := (second value middle final rest).mp finish
    exact ⟨front ++ back, ⟨value, front, back, holds, behind, rfl⟩, (List.append_assoc ..).symm⟩
  · rintro ⟨piece, ⟨value, front, back, holds, behind, rfl⟩, rfl⟩
    refine bind_eq_ok.mpr ⟨(value, back ++ rest), (first _ _ _).mpr ⟨front, holds, List.append_assoc ..⟩, ?_⟩
    exact (second _ _ _ _).mpr ⟨back, behind, rfl⟩

theorem check {look : List β → Except ε PUnit} (parses : Parses reader format)
    (passes : ∀ value piece rest, format value piece → look (piece ++ rest) = .ok ⟨⟩) :
    Parses (fun input => look input >>= fun _ => reader input) format := by
  intro input value rest
  constructor
  · intro done
    obtain ⟨-, -, done⟩ := bind_eq_ok.mp done
    exact (parses _ _ _).mp done
  · rintro ⟨piece, holds, rfl⟩
    exact bind_eq_ok.mpr ⟨⟨⟩, passes value piece rest holds, (parses _ _ _).mpr ⟨piece, holds, rfl⟩⟩

theorem convert {change : α → Except ε γ} (parses : Parses reader format) :
    Parses (fun input => reader input >>= fun found => change found.1 >>= fun value => .ok (value, found.2))
      (fun value piece => ∃ raw, format raw piece ∧ change raw = .ok value) := by
  intro input value rest
  constructor
  · intro done
    obtain ⟨⟨raw, middle⟩, read, done⟩ := bind_eq_ok.mp done
    obtain ⟨changed, good, done⟩ := bind_eq_ok.mp done
    cases done
    obtain ⟨piece, holds, split⟩ := (parses _ _ _).mp read
    exact ⟨piece, ⟨raw, holds, good⟩, split⟩
  · rintro ⟨piece, ⟨raw, holds, good⟩, rfl⟩
    exact bind_eq_ok.mpr ⟨(raw, rest), (parses _ _ _).mpr ⟨piece, holds, rfl⟩, bind_eq_ok.mpr ⟨value, good, rfl⟩⟩

theorem many (parses : Parses reader format) (count : Nat) :
    Parses (readMany reader count) (fun values piece => values.length = count ∧ Tiled format values piece) := by
  intro input values rest
  induction count generalizing input values with
  | zero =>
    constructor
    · intro done
      cases done
      exact ⟨[], ⟨rfl, rfl⟩, rfl⟩
    · rintro ⟨piece, ⟨none, tiled⟩, rfl⟩
      cases List.length_eq_zero_iff.mp none
      cases tiled
      rfl
  | succ count ih =>
    constructor
    · intro done
      obtain ⟨⟨value, middle⟩, read, done⟩ := bind_eq_ok.mp done
      obtain ⟨⟨others, last⟩, more, done⟩ := bind_eq_ok.mp done
      cases done
      obtain ⟨piece, holds, rfl⟩ := (parses _ _ _).mp read
      obtain ⟨back, ⟨size, tiled⟩, rfl⟩ := (ih _ _).mp more
      exact ⟨piece ++ back, ⟨congrArg Nat.succ size, piece, back, holds, tiled, rfl⟩, (List.append_assoc ..).symm⟩
    · rintro ⟨whole, ⟨size, tiled⟩, rfl⟩
      cases values with
      | nil => cases size
      | cons value others =>
        obtain ⟨piece, back, holds, tiled, rfl⟩ := tiled
        refine bind_eq_ok.mpr ⟨(value, back ++ rest), (parses _ _ _).mpr ⟨piece, holds, List.append_assoc ..⟩, ?_⟩
        exact bind_eq_ok.mpr ⟨(others, rest), (ih _ _).mpr ⟨back, ⟨Nat.succ.inj size, tiled⟩, rfl⟩, rfl⟩

end Parses

section Cuts
variable {isCut : ε → Prop} {reader : List β → Except ε (α × List β)}

/-- On an input that was cut short the reader reads the same, or it reports the cut. -/
def Cuts (isCut : ε → Prop) (reader : List β → Except ε (α × List β)) : Prop :=
  ∀ front back value rest, reader (front ++ back) = .ok (value, rest) →
    (∃ left, reader front = .ok (value, left) ∧ rest = left ++ back) ∨ ∃ error, isCut error ∧ reader front = .error error

namespace Cuts

theorem bind {next : α → List β → Except ε (γ × List β)} (first : Cuts isCut reader)
    (second : ∀ value, Cuts isCut (next value)) :
    Cuts isCut (fun input => reader input >>= fun found => next found.1 found.2) := by
  intro front back final rest whole
  obtain ⟨⟨value, middle⟩, read, onward⟩ := bind_eq_ok.mp whole
  rcases first front back value middle read with ⟨left, here, rfl⟩ | ⟨error, cut, here⟩
  · rcases second value left back final rest onward with ⟨last, there, rfl⟩ | ⟨error, cut, there⟩
    · exact .inl ⟨last, bind_eq_ok.mpr ⟨(value, left), here, there⟩, rfl⟩
    · refine .inr ⟨error, cut, ?_⟩
      dsimp only
      rw [here]
      exact there
  · refine .inr ⟨error, cut, ?_⟩
    dsimp only
    rw [here]
    rfl

theorem convert (first : Cuts isCut reader) (change : α → Except ε γ) :
    Cuts isCut (fun input => reader input >>= fun found => change found.1 >>= fun value => .ok (value, found.2)) := by
  have changing : ∀ raw, Cuts isCut (fun input : List β => change raw >>= fun value => .ok (value, input)) := by
    intro raw front back value rest whole
    obtain ⟨changed, good, done⟩ := bind_eq_ok.mp whole
    cases done
    exact .inl ⟨front, bind_eq_ok.mpr ⟨value, good, rfl⟩, rfl⟩
  exact first.bind changing

theorem map (first : Cuts isCut reader) (change : α → γ) :
    Cuts isCut (fun input => reader input >>= fun found => .ok (change found.1, found.2)) :=
  first.convert fun value => .ok (change value)

theorem guarded (check : Except ε PUnit) (first : Cuts isCut reader) : Cuts isCut (fun input => check >>= fun _ => reader input) := by
  intro front back value rest whole
  obtain ⟨_, passed, whole⟩ := bind_eq_ok.mp whole
  dsimp only
  rw [passed]
  exact first front back value rest whole

theorem check {look : List β → Except ε PUnit} (first : Cuts isCut reader)
    (reports : ∀ input error, look input = .error error → isCut error) :
    Cuts isCut (fun input => look input >>= fun _ => reader input) := by
  intro front back value rest whole
  obtain ⟨_, -, whole⟩ := bind_eq_ok.mp whole
  dsimp only
  cases seen : look front with
  | error error => exact .inr ⟨error, reports front error seen, rfl⟩
  | ok _ => exact first front back value rest whole

theorem many (first : Cuts isCut reader) (count : Nat) : Cuts isCut (readMany reader count) := by
  induction count with
  | zero =>
    intro front back value rest whole
    cases whole
    exact .inl ⟨front, rfl, rfl⟩
  | succ count ih =>
    exact first.bind fun value => ih.map (value :: ·)

end Cuts
end Cuts

theorem foldlM_appends {write : List β → α → Except ε (List β)} {format : α → List β → Prop}
    (appends : ∀ output value final, write output value = .ok final ↔ ∃ piece, format value piece ∧ final = output ++ piece)
    {values : List α} {output final : List β} :
    values.foldlM write output = .ok final ↔ ∃ back, Tiled format values back ∧ final = output ++ back := by
  induction values generalizing output with
  | nil =>
    constructor
    · intro done
      cases done
      exact ⟨[], rfl, (List.append_nil _).symm⟩
    · rintro ⟨back, tiled, rfl⟩
      cases tiled
      rw [List.append_nil]
      rfl
  | cons value values ih =>
    rw [List.foldlM_cons, bind_eq_ok]
    constructor
    · rintro ⟨middle, wrote, done⟩
      obtain ⟨piece, holds, rfl⟩ := (appends _ _ _).mp wrote
      obtain ⟨back, tiled, rfl⟩ := ih.mp done
      exact ⟨piece ++ back, ⟨piece, back, holds, tiled, rfl⟩, List.append_assoc ..⟩
    · rintro ⟨whole, ⟨piece, back, holds, tiled, rfl⟩, rfl⟩
      refine ⟨output ++ piece, (appends _ _ _).mpr ⟨piece, holds, rfl⟩, ih.mpr ⟨back, tiled, ?_⟩⟩
      exact (List.append_assoc ..).symm

theorem tiled_wrapped {wrap : γ → List β} {keeps : γ → Prop} {relates : γ → α → Prop} {values : List α} {input : List β} :
    Tiled (fun value piece => ∃ inner, relates inner value ∧ keeps inner ∧ piece = wrap inner) values input ↔
      ∃ inners, List.Forall₂ relates inners values ∧ (∀ inner ∈ inners, keeps inner) ∧ input = inners.flatMap wrap := by
  induction values generalizing input with
  | nil =>
    constructor
    · intro tiled
      exact ⟨[], .nil, fun _ member => absurd member List.not_mem_nil, tiled⟩
    · rintro ⟨inners, each, -, rfl⟩
      cases each
      rfl
  | cons value values ih =>
    constructor
    · rintro ⟨piece, rest, ⟨inner, relates, kept, rfl⟩, tiled, rfl⟩
      obtain ⟨inners, each, all, rfl⟩ := ih.mp tiled
      exact ⟨inner :: inners, .cons relates each, List.forall_mem_cons.mpr ⟨kept, all⟩, rfl⟩
    · rintro ⟨inners, each, all, rfl⟩
      cases each with
      | @cons inner _ inners _ relates each =>
        obtain ⟨kept, all⟩ := List.forall_mem_cons.mp all
        exact ⟨wrap inner, _, ⟨inner, relates, kept, rfl⟩, ih.mpr ⟨inners, each, all, rfl⟩, rfl⟩

section Frames
variable {width : Nat} {α : Type} {relates : List UInt8 → α → Prop}

/-- The length of the payload fits its word. -/
def Fits (width : Nat) (payload : List UInt8) : Prop := payload.length < 256 ^ width

/-- A value behind the length of its payload. -/
def Framed (width : Nat) (relates : List UInt8 → α → Prop) (value : α) (piece : List UInt8) : Prop :=
  ∃ payload, relates payload value ∧ Fits width payload ∧ piece = framed width payload

theorem Framed.length {value : α} {piece : List UInt8} (holds : Framed width relates value piece) : width ≤ piece.length := by
  obtain ⟨payload, -, -, rfl⟩ := holds
  rw [framed_length]
  omega

theorem tiled_framed {values : List α} {input : List UInt8} :
    Tiled (Framed width relates) values input ↔
      ∃ payloads, List.Forall₂ relates payloads values ∧ (∀ payload ∈ payloads, Fits width payload) ∧
        input = payloads.flatMap (framed width) := tiled_wrapped

theorem littleEndian_unique {left right : Nat} {rest other : List UInt8} (leftFits : left < 256 ^ width)
    (rightFits : right < 256 ^ width) (same : littleEndian width left ++ rest = littleEndian width right ++ other) :
    left = right ∧ rest = other := by
  obtain ⟨words, behind⟩ := List.append_inj same (by rw [littleEndian_length, littleEndian_length])
  have values := congrArg fromLittleEndian words
  rw [fromLittleEndian_littleEndian leftFits, fromLittleEndian_littleEndian rightFits] at values
  exact ⟨values, behind⟩

theorem framed_unique {payload next rest other : List UInt8} (fits : Fits width payload) (nextFits : Fits width next)
    (same : framed width payload ++ rest = framed width next ++ other) : payload = next ∧ rest = other := by
  rw [framed, framed, List.append_assoc, List.append_assoc] at same
  obtain ⟨lengths, behind⟩ := littleEndian_unique fits nextFits same
  exact List.append_inj behind lengths

def counted (width : Nat) (payloads : List (List UInt8)) : List UInt8 :=
  littleEndian width payloads.length ++ payloads.flatMap (framed width)

theorem frames_unique {payloads nexts : List (List UInt8)} {rest other : List UInt8} (sizes : payloads.length = nexts.length)
    (fits : ∀ payload ∈ payloads, Fits width payload) (nextFits : ∀ payload ∈ nexts, Fits width payload)
    (same : payloads.flatMap (framed width) ++ rest = nexts.flatMap (framed width) ++ other) :
    payloads = nexts ∧ rest = other := by
  induction payloads generalizing nexts with
  | nil =>
    cases List.length_eq_zero_iff.mp sizes.symm
    exact ⟨rfl, same⟩
  | cons payload payloads ih =>
    cases nexts with
    | nil => cases sizes
    | cons next nexts =>
      rw [List.flatMap_cons, List.flatMap_cons, List.append_assoc, List.append_assoc] at same
      obtain ⟨here, others⟩ := List.forall_mem_cons.mp fits
      obtain ⟨there, nextOthers⟩ := List.forall_mem_cons.mp nextFits
      obtain ⟨first, behind⟩ := framed_unique here there same
      obtain ⟨more, last⟩ := ih (Nat.succ.inj sizes) others nextOthers behind
      exact ⟨congrArg₂ List.cons first more, last⟩

theorem counted_unique {payloads nexts : List (List UInt8)} {rest other : List UInt8} (count : payloads.length < 256 ^ width)
    (nextCount : nexts.length < 256 ^ width) (fits : ∀ payload ∈ payloads, Fits width payload)
    (nextFits : ∀ payload ∈ nexts, Fits width payload)
    (same : counted width payloads ++ rest = counted width nexts ++ other) : payloads = nexts ∧ rest = other := by
  rw [counted, counted, List.append_assoc, List.append_assoc] at same
  obtain ⟨sizes, behind⟩ := littleEndian_unique count nextCount same
  exact frames_unique sizes fits nextFits behind

end Frames

end Cutout.Library
