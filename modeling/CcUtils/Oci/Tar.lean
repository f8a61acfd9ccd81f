import CcUtils.Oci.Replicate
import Mathlib

namespace CcUtils.Oci.Tar

open CcUtils.Oci.Replicate

def blockSize : Nat := 512

def nul (n : Nat) : List UInt8 := List.replicate n 0

/-- What the generator asks of the outside: the bytes of
`tarfile.TarInfo(name=..., size=...).tobuf()`, and the chunks
`oci_client.blob(..., stream=True).iter_content(chunk_size)` yields for a digest. -/
structure TarSource where
  tobuf : String → Nat → List UInt8
  blobChunks : Digest → List (List UInt8)

def tarBlobs (m : OciImageManifest) (includeConfigBlob : Bool) : List OciBlobRef :=
  if includeConfigBlob then m.blobs else m.layers

/-- The chunks yielded for one blob: its header, its content, and the NUL bytes the loop adds
after counting what it yielded. -/
def blobMember (src : TarSource) (blob : OciBlobRef) : List (List UInt8) :=
  let tarinfoBytes := src.tobuf (blob.digest ++ ".tar") blob.size
  let chunks := src.blobChunks blob.digest
  let uploadedBytes := chunks.foldl (fun n chunk => n + chunk.length) tarinfoBytes.length
  let missing := blockSize - uploadedBytes % blockSize
  tarinfoBytes :: chunks ++ (if missing ≠ 0 then [nul missing] else [])

def imageLayersAsTarfileGenerator (src : TarSource) (m : OciImageManifest)
    (includeConfigBlob : Bool) : List (List UInt8) :=
  (tarBlobs m includeConfigBlob).flatMap (blobMember src) ++ [nul (2 * blockSize)]

def WellSized (src : TarSource) (blob : OciBlobRef) : Prop :=
  (src.tobuf (blob.digest ++ ".tar") blob.size).length = blockSize ∧
    ((src.blobChunks blob.digest).map List.length).sum = blob.size

theorem foldl_add_length (chunks : List (List UInt8)) :
    ∀ n, chunks.foldl (fun n chunk => n + chunk.length) n = n + (chunks.map List.length).sum := by
  induction chunks with
  | nil => simp
  | cons c cs ih =>
    intro n
    rw [List.foldl_cons, ih, List.map_cons, List.sum_cons, Nat.add_assoc]

theorem blobMember_eq (src : TarSource) (blob : OciBlobRef) (h : WellSized src blob) :
    blobMember src blob = src.tobuf (blob.digest ++ ".tar") blob.size ::
      src.blobChunks blob.digest ++ [nul (blockSize - blob.size % blockSize)] := by
  obtain ⟨hheader, hsize⟩ := h
  have hmissing : blockSize - (blockSize + blob.size) % blockSize =
      blockSize - blob.size % blockSize := by
    simp [blockSize]
  have hpos : blockSize - blob.size % blockSize ≠ 0 := by
    have := Nat.mod_lt blob.size (show 0 < blockSize by decide)
    omega
  simp only [blobMember, foldl_add_length, hheader, hsize, hmissing, hpos, if_true, ne_eq,
    not_false_eq_true]

theorem flatten_blobMember (src : TarSource) (blob : OciBlobRef) (h : WellSized src blob) :
    (blobMember src blob).flatten = src.tobuf (blob.digest ++ ".tar") blob.size ++
      (src.blobChunks blob.digest).flatten ++ nul (blockSize - blob.size % blockSize) := by
  simp [blobMember_eq src blob h, List.append_assoc]

theorem length_flatten_blobMember (src : TarSource) (blob : OciBlobRef) (h : WellSized src blob) :
    (blobMember src blob).flatten.length = 2 * blockSize + blockSize * (blob.size / blockSize) := by
  have hdiv := Nat.mod_add_div blob.size blockSize
  have hlt := Nat.mod_lt blob.size (show 0 < blockSize by decide)
  rw [flatten_blobMember src blob h]
  simp only [List.length_append, h.1, List.length_flatten, h.2, nul, List.length_replicate]
  omega

theorem tar_stream_pads_whole_block_after_aligned_blob (src : TarSource) (m : OciImageManifest)
    (includeConfigBlob : Bool) (h : ∀ b ∈ tarBlobs m includeConfigBlob, WellSized src b) :
    (imageLayersAsTarfileGenerator src m includeConfigBlob).flatten =
      (tarBlobs m includeConfigBlob).flatMap (fun b => src.tobuf (b.digest ++ ".tar") b.size ++
        (src.blobChunks b.digest).flatten ++ nul (blockSize - b.size % blockSize)) ++
        nul (2 * blockSize) ∧
    (imageLayersAsTarfileGenerator src m includeConfigBlob).flatten.length =
      ((tarBlobs m includeConfigBlob).map fun b =>
        2 * blockSize + blockSize * (b.size / blockSize)).sum + 2 * blockSize := by
  unfold imageLayersAsTarfileGenerator
  generalize tarBlobs m includeConfigBlob = bs at h ⊢
  induction bs with
  | nil => simp [nul]
  | cons b bs ih =>
    obtain ⟨ih₁, ih₂⟩ := ih fun b' hb => h b' (List.mem_cons_of_mem _ hb)
    have hb := h b (List.mem_cons_self _ _)
    constructor
    · rw [List.flatMap_cons, List.append_assoc, List.flatten_append, ih₁, List.flatMap_cons,
        flatten_blobMember src b hb]
      simp only [List.append_assoc]
    · rw [List.flatMap_cons, List.append_assoc, List.flatten_append, List.length_append, ih₂,
        length_flatten_blobMember src b hb, List.map_cons, List.sum_cons]
      omega

def emptyBlobSource : TarSource := ⟨fun _ _ => nul blockSize, fun _ => []⟩

def emptyConfigManifest : OciImageManifest := ⟨⟨"sha256:cfg", 0⟩, [], []⟩

theorem empty_blob_gets_padding_block :
    (imageLayersAsTarfileGenerator emptyBlobSource emptyConfigManifest true).flatten.length =
      2048 :=
  (tar_stream_pads_whole_block_after_aligned_blob emptyBlobSource emptyConfigManifest true
    fun b hb => by
      obtain rfl : b = ⟨"sha256:cfg", 0⟩ := List.mem_singleton.mp hb
      exact ⟨List.length_replicate _ _, rfl⟩).2

end CcUtils.Oci.Tar
