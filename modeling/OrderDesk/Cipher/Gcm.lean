import OrderDesk.Cipher.Aes

/-!
Authenticated encryption of AES-256 in Galois counter mode, without associated data. A sealed
text is the ciphertext followed by a tag of sixteen bytes.
-/

namespace OrderDesk

/-- An authenticated cipher: sealing under a key and a nonce, and opening what was sealed. -/
structure Aead where
  sealText : (key nonce plaintext : Bytes) → Bytes
  openText? : (key nonce sealedText : Bytes) → Option Bytes

namespace Gcm

def tagSize : Nat := 16
def blockSize : Nat := 16

/-- Multiplication in the field of 2^128 elements, by the bits of the second factor from the
highest down; the first factor is divided by the generator at each step. -/
def multiply (first second : Nat) : Nat :=
  ((List.range 128).foldl (fun (product, factor) place =>
    let product := if second.testBit (127 - place) then product ^^^ factor else product
    let factor := if factor % 2 = 1 then factor / 2 ^^^ 0xe1 * Nat.pow 2 120 else factor / 2
    (product, factor)) (0, first)).1

def hashBlocks (hashKey : Nat) (bytes : Bytes) : Nat :=
  (Bytes.blocks blockSize bytes).foldl
    (fun digest block => multiply (digest ^^^ Bytes.toNat block) hashKey) 0

def lengthBits (bytes : Bytes) : Bytes :=
  Bytes.bigEndian 8 (8 * bytes.length)

/-- The counter block that masks the tag: a nonce of twelve bytes is used as it is, any other
is hashed. -/
def firstCounter (hashKey : Nat) (nonce : Bytes) : Bytes :=
  if nonce.length = 12 then nonce ++ [0, 0, 0, 1]
  else
    Bytes.bigEndian 16
      (hashBlocks hashKey (Bytes.padded blockSize nonce ++ Bytes.bigEndian 8 0 ++ lengthBits nonce))

/-- The counter `steps` after another: the last four bytes count, modulo 2^32. -/
def counterAfter (counter : Bytes) (steps : Nat) : Bytes :=
  counter.take 12 ++ Bytes.bigEndian 4 (Bytes.toNat (counter.drop 12) + steps)

def keyStream (keys : List Bytes) (counter : Bytes) (length : Nat) : Bytes :=
  ((List.range ((length + blockSize - 1) / blockSize)).flatMap fun place =>
    Aes.encryptBlock keys (counterAfter counter (place + 1))).take length

structure Stream where
  keys : List Bytes
  hashKey : Nat
  counter : Bytes

def Stream.make (key nonce : Bytes) : Stream :=
  let keys := Aes.roundKeys key
  let hashKey := Bytes.toNat (Aes.encryptBlock keys (List.replicate 16 0))
  ⟨keys, hashKey, firstCounter hashKey nonce⟩

def Stream.apply (stream : Stream) (text : Bytes) : Bytes :=
  Bytes.xor text (keyStream stream.keys stream.counter text.length)

def Stream.tag (stream : Stream) (ciphertext : Bytes) : Bytes :=
  let hash := hashBlocks stream.hashKey
    (Bytes.padded blockSize ciphertext ++ Bytes.bigEndian 8 0 ++ lengthBits ciphertext)
  Bytes.xor (Bytes.bigEndian 16 hash) (Aes.encryptBlock stream.keys stream.counter)

def sealText (key nonce plaintext : Bytes) : Bytes :=
  let stream := Stream.make key nonce
  let ciphertext := stream.apply plaintext
  ciphertext ++ stream.tag ciphertext

/-- Nothing unless the tag is the one that sealing would have made. -/
def openText? (key nonce sealedText : Bytes) : Option Bytes :=
  let stream := Stream.make key nonce
  let size := sealedText.length - tagSize
  let ciphertext := sealedText.take size
  if sealedText.drop size = stream.tag ciphertext then some (stream.apply ciphertext) else none

def aead : Aead := ⟨sealText, openText?⟩

end Gcm

end OrderDesk
