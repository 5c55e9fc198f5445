import HttpRequest.Logging
import HttpRequest.Report.Basic
import HttpRequest.Request.Describe

/-! # Reports of values

The reports of addresses, parameters, attributes, users, dispatch targets and settings.
-/
namespace HttpRequest

instance : Reportable Charset := ⟨fun c => report c.name⟩
instance : Reportable Endpoint := ⟨fun e => report e.text⟩
instance : Reportable Cookie := ⟨fun c => report [c.name, c.value]⟩
instance : Reportable ParamTable := ⟨fun t => report t.toList⟩

instance : Reportable Params where
  report
    | .empty => report "Empty"
    | .table t => report t

instance : Reportable Route := ⟨Route.toJson⟩

instance : Reportable AttributeValue where
  report
    | .text s => .object [("text", report s)]
    | .route r => .object [("mapping", report r)]
    | .json j => .object [("json", j)]

instance : Reportable DispatchRecord where
  report r := .object (DispatchField.all.filterMap fun f =>
    (r.get? f).map fun value => (f.suffix, report value))

instance : Reportable Uri where
  report u := .object [("scheme", report u.scheme), ("host", report u.host), ("port", report u.port),
    ("path", report u.path), ("query", report u.query), ("path_query", report u.pathQuery),
    ("display", report u.text)]

instance : Reportable DispatchTarget where
  report t := .object [("uri", report t.uri?), ("path_in_context", report t.pathInContext?),
    ("query", report t.query?), ("context_path", report t.contextPath?), ("name", report t.name?),
    ("debug", report t.describe)]

instance : Reportable Authentication where
  report
    | .notChecked => report "NotChecked"
    | .unauthenticated => report "Unauthenticated"
    | .user u => .object [("user", report u.name), ("auth_type", report u.scheme),
        ("roles", report u.roles)]

def Settings.fields (s : Settings) : List (String × Json) :=
  [("max_form_content_size", report s.maxFormSize), ("max_form_keys", report s.maxFormKeys),
    ("blocking_read_timeout_ms", report s.readTimeout), ("form_encoded_methods", report s.formMethods),
    ("default_reader_charset", report s.readerCharset)]

namespace Logging

instance : Reportable Format where
  report
    | .json => report "Json"
    | .pretty => report "Pretty"

instance : Reportable Sampling where
  report
    | .all => report "All"
    | .errorsOnly => report "ErrorOnly"
    | .sampled => report "Sampled"

def bitsText (n : Nat) : String :=
  let digits := Nat.toDigits 16 n
  String.ofList (List.replicate (16 - digits.length) '0' ++ digits)

instance : Reportable Config where
  report c := .object [("log_level", report c.level), ("format", report c.format),
    ("sampling_mode", report c.sampling), ("sampling_rate_bits", report (bitsText c.rate.doubleBits)),
    ("async_logging", report c.async), ("target_filter", report c.targetFilter),
    ("include_location", report c.includeLocation)]

end Logging

end HttpRequest
