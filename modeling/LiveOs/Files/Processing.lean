import LiveOs.Files.Storage
import LiveOs.Lib.PyValue

/-!
# Processing uploads

`core/file_processing`: an upload is read within its bound, its type is detected from the bytes, and
what is stored comes with the size and the digest of exactly those bytes. The detector, the image
library and the CSV reader are parameters.
-/

namespace LiveOs.Files

open Lib

structure FileRuntime where
  /-- `sha256(data).hexdigest()` -/
  sha256Hex : Bytes → String
  /-- `str(_detector().identify_bytes(data).output.label).lower()`, where the detector answers -/
  identify : Bytes → Option String
  /-- `_validate_image(data)` -/
  validateImage : Bytes → Except Error Unit
  /-- The data is UTF-8 without NUL characters, and `csv.reader` reads its first lines. -/
  readableCsv : Bytes → Bool
  /-- `identify_allowed_image(data)`, and the cropped image in WebP. -/
  renderAvatar : Bytes → Except Error Bytes
  /-- `str.upper` -/
  upper : String → String
  attachmentMaxFiles : Nat
  attachmentMaxTotalBytes : Nat
  attachmentMaxUploadBytes : Nat
  avatarMaxUploadBytes : Nat

structure Upload where
  name : String
  /-- `getattr(upload, "size", 0)` -/
  size : Option Int
  chunks : List Bytes
  /-- Reading raises after these chunks. -/
  broken : Bool

/-- `read_bounded_upload(upload, max_bytes=max_bytes, subject=subject)`. -/
def readBoundedUpload (upload : Upload) (maxBytes : Nat) (subject : String) :
    Except Error Bytes := do
  let data := upload.chunks.flatten
  rejectIf (maxBytes < data.length)
    (.domain (subject ++ "不能超过 " ++ toString (maxBytes / (1024 * 1024)) ++ " MiB。"))
  rejectIf upload.broken (.domain (subject ++ "读取失败，请重新选择文件。"))
  rejectIf data.isEmpty (.domain (subject ++ "不能为空。"))
  return data

/-- `ALLOWED_LABELS`. -/
def allowedLabels : List (String × String) := [
  ("pdf", "application/pdf"),
  ("jpeg", "image/jpeg"),
  ("jpg", "image/jpeg"),
  ("png", "image/png"),
  ("webp", "image/webp"),
  ("csv", "text/csv")]

/-- `_safe_filename(name)`. -/
def safeFilename (name : String) : String :=
  let path := (if name = "" then "attachment" else name).toList.map fun c => if c = '\\' then '/' else c
  let parts := (path.splitOn '/').filter fun part => part ≠ [] && part ≠ ['.']
  let value := strip (String.ofList (parts.getLast?.getD []))
  String.ofList ((if value = "" then "attachment" else value).toList.take 255)

/-- Bytes with their size and digest. -/
structure Sealed (files : FileRuntime) where
  content : Bytes
  sha256 : String
  size : Nat
  sealed : sha256 = files.sha256Hex content ∧ size = content.length

structure ProcessedBusinessAttachment (files : FileRuntime) extends Sealed files where
  mediaType : String
  displayFilename : String

/-- `b"%PDF-"` -/
def pdfHeader : Bytes := [0x25, 0x50, 0x44, 0x46, 0x2d]

/-- `b"%%EOF"` -/
def pdfTrailer : Bytes := [0x25, 0x25, 0x45, 0x4f, 0x46]

/-- The check of the content that goes with a media type. -/
def validateContent (files : FileRuntime) (mediaType : String) (data : Bytes) :
    Except Error Unit :=
  if "image/".toList.isPrefixOf mediaType.toList then files.validateImage data
  else if mediaType = "application/pdf" then
    rejectIf (!pdfHeader.isPrefixOf data ||
        !decide (pdfTrailer <:+: data.drop (data.length - 2048)))
      (.domain "PDF 凭证已损坏或结构不完整。")
  else rejectIf (!files.readableCsv data) (.domain "CSV 凭证必须是有效的 UTF-8 文本。")

/-- `process_business_attachment(upload)`. -/
def processBusinessAttachment (files : FileRuntime) (upload : Upload) :
    Except Error (ProcessedBusinessAttachment files) := do
  let data ← readBoundedUpload upload files.attachmentMaxUploadBytes "凭证文件"
  match files.identify data with
  | none => .error (.domain "无法可靠识别凭证文件类型。")
  | some label =>
    match allowedLabels.lookup label with
    | none => .error (.domain "凭证只支持 PDF、JPEG、PNG、WebP 或 CSV。")
    | some mediaType => do
      validateContent files mediaType data
      return ⟨⟨data, files.sha256Hex data, data.length, rfl, rfl⟩, mediaType, safeFilename upload.name⟩

/-- `process_avatar(upload)`. -/
def processAvatar (files : FileRuntime) (upload : Upload) : Except Error (Sealed files) := do
  let data ← readBoundedUpload upload files.avatarMaxUploadBytes "头像文件"
  let content ← files.renderAvatar data
  return ⟨content, files.sha256Hex content, content.length, rfl, rfl⟩

end LiveOs.Files
