import SelectLang.Main
import SelectLang.Proofs.Command.Piped
import SelectLang.Proofs.Parser.Choice
import SelectLang.Proofs.Parser.Unfolding
import SelectLang.Proofs.Query.Blame
import SelectLang.Proofs.Query.Numeric
import SelectLang.Proofs.Query.Rendering
import SelectLang.Proofs.Statement.Refusal
import SelectLang.Proofs.Token.Listing
import SelectLang.Proofs.Token.Stream
