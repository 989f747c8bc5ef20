import LibRdp.Bulk.Rdp6
import LibRdp.Bulk.Rdp61

/-! # The bulk decompressor

`rdp_bulk_decompressor` holds one state for each algorithm, and the type bits of
a packet's flags byte select the one that decodes it.
-/

namespace LibRdp.Bulk

open Machine

/-- `RDP_BULK_TYPE_MASK` and `RDP_BULK_FLAGS_MASK`. -/
def bulkTypeMask : UInt8 := 0x0f
def bulkFlagsMask : UInt8 := 0xe0

/-- `RDP_BULK_TYPE_8K`, `_64K`, `_RDP6` and `_RDP61`. -/
def bulkType8k : UInt8 := 0x00
def bulkType64k : UInt8 := 0x01
def bulkTypeRdp6 : UInt8 := 0x02
def bulkTypeRdp61 : UInt8 := 0x03

/-- `rdp_bulk_decompressor`. -/
structure Decompressor where
  mppc8k : MppcState
  mppc64k : MppcState
  rdp6 : Rdp6State
  rdp61Level2 : MppcState
  rdp61 : Rdp61State

def decompressorInit : Decompressor where
  mppc8k := mppcStateInit .k8
  mppc64k := mppcStateInit .k64
  rdp6 := rdp6StateInit
  rdp61Level2 := mppcStateInit .k64
  rdp61 := rdp61StateInit

def decompressorReset (d : Decompressor) : Exec Decompressor := do
  let mppc8k ← mppcStateReset d.mppc8k true
  let mppc64k ← mppcStateReset d.mppc64k true
  let rdp6 ← rdp6StateReset d.rdp6 true
  let rdp61Level2 ← mppcStateReset d.rdp61Level2 true
  let rdp61 ← rdp61StateReset d.rdp61 true
  pure ⟨mppc8k, mppc64k, rdp6, rdp61Level2, rdp61⟩

def decompress (d : Decompressor) (flags : UInt8) (data decoded : Bytes) :
    Exec (Status × Decompressor × Bytes) :=
  let type := flags &&& bulkTypeMask
  if data.length = 0 then .ok (.ok, d, decoded)
  else if flags &&& bulkFlagsMask = 0 then .ok (.ok, d, decoded ++ data)
  else if type = bulkType8k then do
    let (status, mppc8k, decoded) ← mppcDecompress d.mppc8k flags data decoded
    pure (status, { d with mppc8k := mppc8k }, decoded)
  else if type = bulkType64k then do
    let (status, mppc64k, decoded) ← mppcDecompress d.mppc64k flags data decoded
    pure (status, { d with mppc64k := mppc64k }, decoded)
  else if type = bulkTypeRdp6 then do
    let (status, rdp6, decoded) ← rdp6Decode d.rdp6 flags data decoded
    pure (status, { d with rdp6 := rdp6 }, decoded)
  else if type = bulkTypeRdp61 then do
    let (status, rdp61, level2, decoded) ← rdp61Decompress d.rdp61 d.rdp61Level2 data decoded
    pure (status, { d with rdp61 := rdp61, rdp61Level2 := level2 }, decoded)
  else .ok (.unsupported, d, decoded)

inductive BulkCall where
  | decompress (flags : UInt8) (data decoded : Bytes)
  | reset

def bulkStep (d : Decompressor) : BulkCall → Exec ((Status × Bytes) × Decompressor)
  | .decompress flags data decoded => do
      let (status, d, decoded) ← decompress d flags data decoded
      pure ((status, decoded), d)
  | .reset => do
      let d ← decompressorReset d
      pure ((.ok, []), d)

end LibRdp.Bulk
