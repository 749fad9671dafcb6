import Mathlib.Algebra.Order.Ring.Int
import KsanaBuildAhead.Lib.Execution

/-!
# Typed wires

Readers that consume bytes from the front, and wires: an encoder and a reader of
one type with the law that the reader takes back what the encoder wrote, for the
values that fit, whatever follows. The rules compose this law along a sequence of
fields, over loops and over optional parts.
-/
namespace KsanaBuildAhead.Lib.TypedWire

open Execution

variable {α β : Type}

abbrev Reader := StateT (List UInt8) Option

/-- `reader` takes exactly `bytes` from the front, whatever follows, and yields `a`. -/
def Reads (reader : Reader α) (bytes : List UInt8) (a : α) : Prop :=
  ∀ rest, reader (bytes ++ rest) = some (a, rest)

/-- How one type is written and read. -/
structure Wire (α : Type) (Fits : α → Prop) where
  encode : α → List UInt8
  decode : Reader α
  reads : ∀ a, Fits a → Reads decode (encode a) a

theorem Reads.pure (a : α) : Reads (Pure.pure a) [] a := fun _ => rfl

/-- The end of a sequence of chunks. -/
theorem Reads.done {a b : α} (h : a = b) : Reads (Pure.pure a) (List.flatten []) b := by
  rw [h]
  exact Reads.pure b

theorem Reads.bind {reader : Reader α} {next : α → Reader β} {bytes more : List UInt8} {a : α}
    {b : β} (h : Reads reader bytes a) (hnext : Reads (next a) more b) :
    Reads (reader >>= next) (bytes ++ more) b := by
  intro rest
  show (reader ((bytes ++ more) ++ rest)).bind (fun read => next read.1 read.2) = some (b, rest)
  rw [List.append_assoc, h]
  exact hnext rest

theorem Reads.congr {reader : Reader α} {bytes bytes' : List UInt8} {a a' : α}
    (h : Reads reader bytes a) (hbytes : bytes = bytes') (ha : a = a') :
    Reads reader bytes' a' := by
  rw [← hbytes, ← ha]
  exact h

/-- What was read is turned into another value. -/
theorem Reads.map {reader : Reader α} {bytes : List UInt8} {a : α} (h : Reads reader bytes a)
    (f : α → β) : Reads (reader >>= fun a => Pure.pure (f a)) bytes (f a) := by
  have hread : Reads (reader >>= fun a => Pure.pure (f a)) (bytes ++ []) (f a) :=
    h.bind (Reads.pure (f a))
  rwa [List.append_nil] at hread

/-- The first of several chunks. -/
theorem Reads.next {reader : Reader α} {next : α → Reader β} {bytes : List UInt8}
    {chunks : List (List UInt8)} {a : α} {b : β} (h : Reads reader bytes a)
    (hnext : Reads (next a) chunks.flatten b) :
    Reads (reader >>= next) (bytes :: chunks).flatten b := by
  rw [List.flatten_cons]
  exact h.bind hnext

/-- A part that is only read under a condition. -/
def readIf (condition : Prop) [Decidable condition] (reader : Reader α) (default : α) : Reader α :=
  if condition then reader else Pure.pure default

/-- A part that is only written under a condition. -/
def writeIf {ε : Type} (condition : Prop) [Decidable condition]
    (write : Except ε (List UInt8)) : Except ε (List UInt8) :=
  if condition then write else .ok []

/-- A part that is written and read under the same condition. -/
theorem Reads.optional {ε : Type} {reader : Reader α} {write : Except ε (List UInt8)}
    {bytes : List UInt8} {a : α} (default : α) {condition : Prop} [Decidable condition]
    (hwrite : writeIf condition write = .ok bytes)
    (h : condition → write = .ok bytes → Reads reader bytes a) :
    Reads (readIf condition reader default) bytes (if condition then a else default) := by
  unfold writeIf at hwrite
  unfold readIf
  by_cases hc : condition
  · rw [if_pos hc] at hwrite
    rw [if_pos hc, if_pos hc]
    exact h hc hwrite
  · rw [if_neg hc] at hwrite
    obtain rfl := Except.ok.inj hwrite
    rw [if_neg hc, if_neg hc]
    exact Reads.pure default

/-- Read `count` values one after the other. -/
def readMany (reader : Reader α) : Nat → Reader (List α)
  | 0 => Pure.pure []
  | count + 1 => do
    let a ← reader
    let as ← readMany reader count
    Pure.pure (a :: as)

theorem reads_many {reader : Reader α} {chunks : List (List UInt8)} {as : List α}
    (h : List.Forall₂ (Reads reader) chunks as) :
    Reads (readMany reader as.length) chunks.flatten as := by
  induction h with
  | nil => exact Reads.pure []
  | @cons chunk a chunks as hhead _ ih =>
    exact hhead.next (ih.map (a :: ·))

/-- The loop over a list whose elements are written one after the other. -/
theorem reads_flatMap {reader : Reader β} {write : α → List UInt8} {value : α → β} {as : List α}
    (h : ∀ a ∈ as, Reads reader (write a) (value a)) :
    Reads (readMany reader as.length) (as.flatMap write) (as.map value) := by
  have hall : List.Forall₂ (Reads reader) (as.map write) (as.map value) := by
    rw [List.forall₂_map_left_iff, List.forall₂_map_right_iff, List.forall₂_same]
    exact h
  have hmany := reads_many hall
  rwa [List.length_map] at hmany

/-- The loop over a list whose elements are written in a way that may fail. -/
theorem reads_mapM {ε : Type} {reader : Reader β} {write : α → Except ε (List UInt8)}
    {value : α → β} {Fits : α → Prop} {as : List α} {chunks : List (List UInt8)}
    (hwrite : as.mapM write = .ok chunks) (hfits : ∀ a ∈ as, Fits a)
    (h : ∀ a bytes, Fits a → write a = .ok bytes → Reads reader bytes (value a)) :
    Reads (readMany reader as.length) chunks.flatten (as.map value) := by
  have hpairs := (List.forall₂_and_left _ _).mpr ⟨hfits, forall₂_of_mapM_ok hwrite⟩
  have hall : List.Forall₂ (Reads reader) chunks (as.map value) := by
    rw [List.forall₂_map_right_iff]
    exact hpairs.flip.imp fun bytes a hpair => h a bytes hpair.1 hpair.2
  have hmany := reads_many hall
  rwa [List.length_map] at hmany

/-- The next `count` bytes. -/
def takeBytes (count : Nat) : Reader (List UInt8) := fun bytes =>
  if count ≤ bytes.length then some (bytes.take count, bytes.drop count) else none

theorem reads_takeBytes (bytes : List UInt8) : Reads (takeBytes bytes.length) bytes bytes := by
  intro rest
  rw [takeBytes, if_pos (by rw [List.length_append]; omega), List.take_left, List.drop_left]

namespace Wire

variable {Fits : α → Prop} {Fits' : β → Prop}

/-- A type represented by another one. -/
def via (wire : Wire α Fits) (pack : β → α) (unpack : α → β)
    (h : ∀ b, Fits' b → Fits (pack b) ∧ unpack (pack b) = b) : Wire β Fits' where
  encode b := wire.encode (pack b)
  decode := wire.decode >>= fun a => Pure.pure (unpack a)
  reads b hb := by
    refine ((wire.reads (pack b) (h b hb).1).map unpack).congr rfl ?_
    exact (h b hb).2

def pair (first : Wire α Fits) (second : Wire β Fits') :
    Wire (α × β) fun value => Fits value.1 ∧ Fits' value.2 where
  encode value := first.encode value.1 ++ second.encode value.2
  decode := do
    let a ← first.decode
    let b ← second.decode
    Pure.pure (a, b)
  reads value h := by
    refine (first.reads value.1 h.1).bind ?_
    exact (second.reads value.2 h.2).map fun b => (value.1, b)

/-- A list behind its length. -/
def list {Count : Nat → Prop} (count : Wire Nat Count) (wire : Wire α Fits) :
    Wire (List α) fun as => Count as.length ∧ ∀ a ∈ as, Fits a where
  encode as := count.encode as.length ++ as.flatMap wire.encode
  decode := do
    let length ← count.decode
    readMany wire.decode length
  reads as h := by
    have hloop : Reads (readMany wire.decode as.length) (as.flatMap wire.encode) (as.map id) :=
      reads_flatMap fun a ha => wire.reads a (h.2 a ha)
    rw [List.map_id] at hloop
    exact (count.reads as.length h.1).bind hloop

/-- Little-endian digits of a natural number. -/
def digits : Nat → Nat → List UInt8
  | 0, _ => []
  | width + 1, n => UInt8.ofNat (n % 256) :: digits width (n / 256)

def ofDigits : List UInt8 → Nat
  | [] => 0
  | digit :: rest => digit.toNat + 256 * ofDigits rest

theorem digits_length (width n : Nat) : (digits width n).length = width := by
  induction width generalizing n with
  | zero => rfl
  | succ width ih => rw [digits, List.length_cons, ih]

theorem ofDigits_digits (width n : Nat) (h : n < 256 ^ width) : ofDigits (digits width n) = n := by
  induction width generalizing n with
  | zero =>
    have hzero : n = 0 := by simpa using h
    rw [hzero]
    rfl
  | succ width ih =>
    have hrest : n / 256 < 256 ^ width := by
      rw [Nat.pow_succ] at h
      exact Nat.div_lt_of_lt_mul (by omega)
    have hdigit : (UInt8.ofNat (n % 256)).toNat = n % 256 := by simp
    rw [digits, ofDigits, ih _ hrest, hdigit]
    omega

/-- A natural number in `width` bytes. -/
def unsigned (width : Nat) : Wire Nat fun n => n < 256 ^ width where
  encode := digits width
  decode := takeBytes width >>= fun bytes => Pure.pure (ofDigits bytes)
  reads n h := by
    have hbytes := reads_takeBytes (digits width n)
    rw [digits_length] at hbytes
    exact (hbytes.map ofDigits).congr rfl (ofDigits_digits width n h)

end Wire

end KsanaBuildAhead.Lib.TypedWire
