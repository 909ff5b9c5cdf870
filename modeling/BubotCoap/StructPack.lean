import BubotCoap.BigEndian
import BubotCoap.PythonData

set_option autoImplicit false

/-!
# The `struct` module

Packing of unsigned bytes, unsigned shorts and byte strings. The first
character of a format decides the byte order and whether shorts are aligned;
an argument out of range stops the packing and leaves what was already written
in a buffer of zeros.
-/
namespace BubotCoap.StructPack
open PythonData

/-- Byte order and alignment of shorts. -/
structure Layout where
  bigEndian : Bool
  shortAlign : ℕ
  deriving DecidableEq, Repr

/-- A format that starts with `!`. -/
def network : Layout := ⟨true, 1⟩

/-- A format without a prefix on a little-endian host whose shorts are aligned to two bytes. -/
def littleEndianHost : Layout := ⟨false, 2⟩

/-- A format character together with its argument; `none` is an argument that is no integer. -/
inductive Field where
  | ubyte (v : Option ℕ)
  | ushort (v : ℤ)
  | str (b : Bytes)
  deriving DecidableEq, Repr

/-- Zero bytes inserted before a field at offset `off`. -/
def Field.pad (l : Layout) (off : ℕ) : Field → ℕ
  | .ushort _ => (l.shortAlign - off % l.shortAlign) % l.shortAlign
  | _ => 0

def Field.width : Field → ℕ
  | .ubyte _ => 1
  | .ushort _ => 2
  | .str b => b.length

def Field.Fits : Field → Prop
  | .ubyte (some v) => v < 256
  | .ubyte none => False
  | .ushort v => 0 ≤ v ∧ v < 65536
  | .str _ => True

instance (f : Field) : Decidable f.Fits :=
  match f with
  | .ubyte (some v) => inferInstanceAs (Decidable (v < 256))
  | .ubyte none => inferInstanceAs (Decidable False)
  | .ushort v => inferInstanceAs (Decidable (0 ≤ v ∧ v < 65536))
  | .str _ => inferInstanceAs (Decidable True)

def shortBytes (l : Layout) (v : ℕ) : Bytes :=
  if l.bigEndian then BigEndian.bytes 2 v else (BigEndian.bytes 2 v).reverse

def Field.encode (l : Layout) : Field → Bytes
  | .ubyte v => [UInt8.ofNat (v.getD 0)]
  | .ushort v => shortBytes l v.toNat
  | .str b => b

def calcsize (l : Layout) (off : ℕ) : List Field → ℕ
  | [] => 0
  | f :: fs => f.pad l off + f.width + calcsize l (off + f.pad l off + f.width) fs

/-- What is written before the first argument that does not fit, and whether all did. -/
def write (l : Layout) (off : ℕ) : List Field → Bytes × Bool
  | [] => ([], true)
  | f :: fs =>
    if f.Fits then
      let rest := write l (off + f.pad l off + f.width) fs
      (List.replicate (f.pad l off) 0 ++ f.encode l ++ rest.1, rest.2)
    else ([], false)

/-- `pack_into` on a fresh buffer of the format's size: the buffer, and whether the call
returned. When it raises, the bytes from the failing field on are still zero. -/
def packInto (l : Layout) (fs : List Field) : Bytes × Bool :=
  let w := write l 0 fs
  (w.1 ++ List.replicate (calcsize l 0 fs - w.1.length) 0, w.2)

def unpackH (b : Bytes) : Except PyErr ℕ :=
  match b with
  | b₀ :: b₁ :: _ => .ok (BigEndian.value [b₀, b₁])
  | _ => .error .structError

def unpackBBH (b : Bytes) : Except PyErr (ℕ × ℕ × ℕ) :=
  match b with
  | b₀ :: b₁ :: b₂ :: b₃ :: _ => .ok (b₀.toNat, b₁.toNat, BigEndian.value [b₂, b₃])
  | _ => .error .structError

@[simp] theorem shortBytes_length (l : Layout) (v : ℕ) : (shortBytes l v).length = 2 := by
  unfold shortBytes
  split <;> simp

@[simp] theorem Field.encode_length (l : Layout) (f : Field) : (f.encode l).length = f.width := by
  cases f <;> simp [Field.encode, Field.width]

theorem write_length (l : Layout) (off : ℕ) (fs : List Field) (h : ∀ f ∈ fs, f.Fits) :
    (write l off fs).1.length = calcsize l off fs := by
  induction fs generalizing off with
  | nil => rfl
  | cons f fs ih =>
    have hf := h f List.mem_cons_self
    have ht := ih (off + f.pad l off + f.width) fun g hg => h g (List.mem_cons_of_mem f hg)
    simp only [write, hf, ↓reduceIte, calcsize, List.length_append, List.length_replicate,
      Field.encode_length, ht]

theorem write_ok (l : Layout) (off : ℕ) (fs : List Field) :
    (write l off fs).2 = true ↔ ∀ f ∈ fs, f.Fits := by
  induction fs generalizing off with
  | nil => simp [write]
  | cons f fs ih =>
    by_cases hf : f.Fits <;> simp [write, hf, ih]

theorem packInto_of_fits (l : Layout) (fs : List Field) (h : ∀ f ∈ fs, f.Fits) :
    packInto l fs = ((write l 0 fs).1, true) := by
  have hlen := write_length l 0 fs h
  have hok := (write_ok l 0 fs).mpr h
  simp [packInto, hlen, hok]

@[simp] theorem pad_network (off : ℕ) (f : Field) : f.pad network off = 0 := by
  cases f <;> simp [Field.pad, network, Nat.mod_one]

theorem write_network (off : ℕ) (fs : List Field) (h : ∀ f ∈ fs, f.Fits) :
    (write network off fs).1 = fs.flatMap (Field.encode network) := by
  induction fs generalizing off with
  | nil => rfl
  | cons f fs ih =>
    have hf := h f List.mem_cons_self
    have ht := ih (off + f.width) fun g hg => h g (List.mem_cons_of_mem f hg)
    simp [write, hf, ht]

theorem packInto_network_append (fs gs : List Field) (h : ∀ f ∈ fs, f.Fits) :
    ∃ rest, (packInto network (fs ++ gs)).1 = fs.flatMap (Field.encode network) ++ rest := by
  have hwrite : ∀ off, ∃ rest, (write network off (fs ++ gs)).1 =
      fs.flatMap (Field.encode network) ++ rest := by
    induction fs with
    | nil => exact fun off => ⟨_, rfl⟩
    | cons f fs ih =>
      intro off
      have hf := h f List.mem_cons_self
      obtain ⟨rest, hrest⟩ := ih (fun g hg => h g (List.mem_cons_of_mem f hg)) (off + f.width)
      refine ⟨rest, ?_⟩
      simp [write, hf, hrest]
  obtain ⟨rest, hrest⟩ := hwrite 0
  unfold packInto
  dsimp only
  rw [hrest, List.append_assoc]
  exact ⟨_, rfl⟩

theorem packInto_network (fs : List Field) (h : ∀ f ∈ fs, f.Fits) :
    packInto network fs = (fs.flatMap (Field.encode network), true) := by
  rw [packInto_of_fits network fs h, write_network 0 fs h]

/-- Nothing is inserted before any field, and each is laid out as in network format. -/
def Agrees (l : Layout) (off : ℕ) : List Field → Prop
  | [] => True
  | f :: fs =>
    f.pad l off = 0 ∧ f.encode l = f.encode network ∧ Agrees l (off + f.width) fs

theorem network_length_le (l : Layout) (off : ℕ) (fs : List Field) :
    (fs.flatMap (Field.encode network)).length ≤ calcsize l off fs := by
  induction fs generalizing off with
  | nil => simp
  | cons f fs ih =>
    have ht := ih (off + f.pad l off + f.width)
    rw [List.flatMap_cons, List.length_append, Field.encode_length, calcsize]
    omega

/-- A layout writes the network bytes exactly if it agrees on every field: padding makes the
result longer, and then fields of equal width are compared one by one. -/
theorem write_eq_network_iff (l : Layout) (off : ℕ) (fs : List Field) (h : ∀ f ∈ fs, f.Fits) :
    (write l off fs).1 = fs.flatMap (Field.encode network) ↔ Agrees l off fs := by
  induction fs generalizing off with
  | nil => simp [write, Agrees]
  | cons f fs ih =>
    have hf := h f List.mem_cons_self
    have hfs : ∀ g ∈ fs, g.Fits := fun g hg => h g (List.mem_cons_of_mem f hg)
    have hlen := write_length l (off + f.pad l off + f.width) fs hfs
    have hle := network_length_le l (off + f.pad l off + f.width) fs
    simp only [write, hf, ↓reduceIte, List.flatMap_cons, Agrees]
    constructor
    · intro heq
      have hpad : f.pad l off = 0 := by
        have := congrArg List.length heq
        simp only [List.length_append, List.length_replicate, Field.encode_length, hlen] at this
        omega
      rw [hpad, List.replicate_zero, List.nil_append] at heq
      obtain ⟨hfirst, hrest⟩ := List.append_inj heq (by simp)
      exact ⟨hpad, hfirst, (ih _ hfs).mp hrest⟩
    · rintro ⟨hpad, hfirst, hrest⟩
      rw [hpad, hfirst, Nat.add_zero, (ih _ hfs).mpr hrest]
      rfl

theorem agrees_append (l : Layout) (off : ℕ) (fs gs : List Field) :
    Agrees l off (fs ++ gs) ↔
      Agrees l off fs ∧ Agrees l (off + (fs.map Field.width).sum) gs := by
  induction fs generalizing off with
  | nil => simp [Agrees]
  | cons f fs ih =>
    simp only [List.cons_append, Agrees, ih, List.map_cons, List.sum_cons, Nat.add_assoc]
    tauto

theorem unpackH_bytes (v : ℕ) (h : v < 65536) (rest : Bytes) :
    unpackH (BigEndian.bytes 2 v ++ rest) = .ok v := by
  have hv := BigEndian.value_bytes 2 v h
  rw [BigEndian.bytes_two] at hv ⊢
  simp only [unpackH, List.cons_append, List.nil_append]
  rw [hv]

end BubotCoap.StructPack
