/-!
# What the command says of itself
-/
namespace AeadEnvelope.Command

/-- Name and version of the command. -/
def version : String := "0.1.0"

/-- How the command is used. -/
def usage : String :=
"ctxenv: frame ciphertext with its encryption context

USAGE:
    ctxenv <COMMAND> [OPTIONS]

COMMANDS:
    canonicalize  Print the canonical form of a context
    pack          Frame ciphertext as a tag/length v2 packet
    unpack        Verify a tag/length packet and extract its ciphertext
    seal          Frame ciphertext as a varint packet
    open          Verify a varint packet and extract its ciphertext
    inspect       Show packet structure (no verification)

EXAMPLES:
    ctxenv canonicalize \"Table_Name=orders|key=value\"

    ctxenv pack --context \"table_name=orders\" --input blob.ct --output blob.pkt
    ctxenv unpack --context \"table_name=orders\" --input blob.pkt --output blob.ct

    ctxenv inspect blob.pkt

ENVIRONMENT:
    RUST_LOG     Log filter (default: warn)

OPTIONS:
    -h, --help       Print help
    -V, --version    Print version

"

end AeadEnvelope.Command
