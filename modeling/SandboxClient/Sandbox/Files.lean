import SandboxClient.Sandbox.Basic

/-!
# Files of a sandbox

Writing and reading a file inside a sandbox, and uploading a local one.  A rejected write or upload is
reported in the answer; only the calls themselves can fail.
-/

namespace SandboxClient

/-- What became of a write. -/
structure WriteFileResponse where
  success : Bool := false
  message : Bytes := []
  deriving DecidableEq, Repr

/-- What became of an upload. -/
structure UploadResponse where
  success : Bool := false
  message : Bytes := []
  fileName : Bytes := []
  deriving DecidableEq, Repr

def fileNameOf (path : Bytes) : Bytes :=
  (Text.splitOn 47 path).getLastD []

namespace Sandbox

def putFile (sandbox : Sandbox) (path content : Bytes) : Attempt WriteFileResponse := do
  .ofExcept (sandbox.requireAlive (utf8 "write file"))
  let body := Json.object [
    (utf8 "content", .string content),
    (utf8 "path", .string path),
    (utf8 "sandbox_id", .string sandbox.id)]
  let response ← sandbox.post (utf8 "write_file") body defaultTimeout
  if Envelope.isSuccess response then
    return { success := true, message := utf8 "Successfully wrote content to file " ++ path }
  else
    let message := utf8 "Failed to write file " ++ path
    let document ← .ofExcept response.document
    sandbox.log .warning (sandbox.tagged (message ++ utf8 ": " ++ document))
    return { success := false, message }

/-- Reads a file.  The encoding and the treatment of undecodable bytes are left to the service if
they are empty. -/
def getFile (sandbox : Sandbox) (path encoding errors : Bytes) : Attempt Bytes := do
  let operation := utf8 "read file"
  .ofExcept (sandbox.requireAlive operation)
  let optional := fun (name value : Bytes) =>
    if value.isEmpty then ([] : List (Bytes × Json)) else [(name, .string value)]
  let body := Json.object (optional (utf8 "encoding") encoding ++ optional (utf8 "errors") errors ++ [
    (utf8 "path", .string path),
    (utf8 "sandbox_id", .string sandbox.id)])
  let result ← sandbox.call operation (utf8 "read_file") body defaultTimeout
  return result.text (utf8 "content")

/-- Sends a local file to a path in the sandbox. -/
def upload (sandbox : Sandbox) (source target : Bytes) : Attempt UploadResponse := do
  .ofExcept (sandbox.requireAlive (utf8 "upload file"))
  match ← (Program.perform (.loadFile source) : Program LocalFile) with
  | .missing => return { message := utf8 "File not found: " ++ source }
  | .unopened => return { message := utf8 "Failed to open file: " ++ source }
  | .unreachable reason => throw (Error.badPath reason source)
  | .content content =>
    let fileName := fileNameOf source
    sandbox.log .info (sandbox.tagged
      (utf8 "Uploading " ++ source ++ utf8 " (" ++ Text.decimal content.length ++
        utf8 " bytes) to " ++ target))
    let response ← Attempt.ofProgram (.request {
      url := sandbox.endpointUrl (utf8 "upload")
      headers := sandbox.headers
      timeout := defaultTimeout
      payload := .form
        [(utf8 "sandbox_id", sandbox.id), (utf8 "target_path", target)]
        { fileName, content } })
    if Envelope.isSuccess response then
      return {
        success := true
        message := utf8 "Successfully uploaded file " ++ fileName ++ utf8 " to " ++ target
        fileName }
    else
      let document ← .ofExcept response.document
      return { success := false, message := utf8 "Upload failed: " ++ document, fileName }

end Sandbox

end SandboxClient
