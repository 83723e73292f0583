/-!
# The help page

What the program prints when it is asked for help or for its version.
-/

namespace AckDesk

/-- The name and the version of the program. -/
def versionLine : String := "test_ack_cmdr 0.1.0\n"

/-- The help page, 100 columns wide. -/
def helpPage : String :=
  "✅ Acknowledge known test failures on the dashboard\n" ++
  "Version: test_ack_cmdr 0.1.0 💻\n" ++
  "\n" ++
  "Provide the page inputs as a JSON file, or nothing to start with an empty list.\n" ++
  "USAGE 📓:\n" ++
  "  acks [inputs file] [options]\n" ++
  "\n" ++
  "[options]\n" ++
  "  -u, --base-url <BASE_URL>\n" ++
  "          Dashboard base URL, eg: `https://dash.example.com`. Without it, saves and deletes go to an\n" ++
  "          in-memory backend seeded from the inputs file.\n" ++
  "  -r, --read-only\n" ++
  "          Mount read-only, regardless of what the inputs file says.\n" ++
  "  -w, --writable\n" ++
  "          Mount writable, regardless of what the inputs file says. A file that leaves out `readOnly`\n" ++
  "          mounts read-only otherwise.\n" ++
  "  -f, --notify-failures\n" ++
  "          Queue a notice when a save or delete fails, on top of reverting the card.\n" ++
  "      --notice-capacity <NOTICE_CAPACITY>\n" ++
  "          How many failure notices are kept before the oldest is dropped. [default: 5]\n" ++
  "  -l, --enable-logging\n" ++
  "          Log app output to a file named `acks.log` for debugging.\n" ++
  "  -h, --help\n" ++
  "          Print help\n" ++
  "  -V, --version\n" ++
  "          Print version\n"

end AckDesk
