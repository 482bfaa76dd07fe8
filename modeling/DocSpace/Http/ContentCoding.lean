import DocSpace.Compression.Stream
import DocSpace.Text.Blank
import DocSpace.Text.Pieces

set_option autoImplicit false

namespace DocSpace.Http

open Compression Text

inductive ContentCoding where
  | gzip
  | deflate
  deriving DecidableEq

namespace ContentCoding

def ofName? : String → Option ContentCoding
  | "gzip" => some gzip
  | "deflate" => some deflate
  | _ => none

def ofList (list : String) : List ContentCoding :=
  (pieces ',' list.toList).filterMap fun name =>
    ofName? (String.ofList ((trim name).map Char.toLower))

/-- Deflated content should be wrapped, but may be bare. -/
def decode (coding : ContentCoding) (content : List UInt8) : Except StreamFault (List UInt8) :=
  match coding with
  | gzip => ofGzip content
  | deflate =>
    match ofZlib content with
    | .ok bs => .ok bs
    | .error _ => ofBare content

/-- Undoes the codings, the last one first. -/
def decodeAll (codings : List ContentCoding) (content : List UInt8) :
    Except StreamFault (List UInt8) :=
  codings.reverse.foldlM (fun content coding => coding.decode content) content

end ContentCoding

end DocSpace.Http
