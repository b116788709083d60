import MockData.Vocabulary.Basic

/-!
# Network names

Mail hosts, domain suffixes, user agents, the characters of passwords, and the words of user names.
-/

namespace MockData

namespace Vocabulary

def mailHosts : WordTable := .ofLines ["gmail.com|yahoo.com|hotmail.com"]

def mailHostsPortuguese : WordTable := .ofLines
  ["bol.com.br|gmail.com.br|hotmail.com.br|ig.com.br|outlook.com.br|terra.com.br|uol.com.br",
   "yahoo.com.br"]

def domainSuffixes : WordTable := .ofLines ["com|biz|info|name|net|org|io|co"]

def domainSuffixesPortuguese : WordTable := .ofLines ["app.br|art.br|com.br|dev.br|net.br|org.br"]

def userAgents : WordTable := .ofLines
  ["Mozilla/5.0 (Linux; U; Android 4.0.3; ko-kr; LG-L160L Build/IML74K) AppleWebkit/534.30 (KHTML, like Gecko) Version/4.0 Mobile Safari/534.30",
   "Mozilla/5.0 (Linux; U; Android 2.3; en-us) AppleWebKit/999+ (KHTML, like Gecko) Safari/999.9",
   "Mozilla/5.0 (Windows NT 6.1) AppleWebKit/537.36 (KHTML, like Gecko) Chrome/41.0.2228.0 Safari/537.36",
   "Mozilla/5.0 (Macintosh; Intel Mac OS X 10_9_2) AppleWebKit/537.36 (KHTML, like Gecko) Chrome/36.0.1944.0 Safari/537.36",
   "Mozilla/5.0 (X11; Linux x86_64) AppleWebKit/537.36 (KHTML, like Gecko) Chrome/33.0.1750.517 Safari/537.36",
   "Mozilla/5.0 (Windows NT 10.0; Win64; x64) AppleWebKit/537.36 (KHTML, like Gecko) Chrome/42.0.2311.135 Safari/537.36 Edge/12.246",
   "Mozilla/5.0 (Windows NT 6.1; WOW64; rv:40.0) Gecko/20100101 Firefox/40.1",
   "Mozilla/5.0 (X11; OpenBSD amd64; rv:28.0) Gecko/20100101 Firefox/28.0",
   "Mozilla/5.0 (Macintosh; Intel Mac OS X 10_10; rv:33.0) Gecko/20100101 Firefox/33.0",
   "Mozilla/5.0 (Windows NT 6.1; WOW64; Trident/7.0; AS; rv:11.0) like Gecko",
   "Mozilla/5.0 (Windows; U; MSIE 9.0; WIndows NT 9.0; en-US))",
   "Mozilla/5.0 (compatible; MSIE 8.0; Windows NT 5.1; Trident/4.0; .NET CLR 1.1.4322; .NET CLR 2.0.50727)",
   "Opera/9.80 (Windows NT 6.0) Presto/2.12.388 Version/12.14",
   "Opera/9.80 (Macintosh; Intel Mac OS X 10.6.8; U; fr) Presto/2.9.168 Version/11.52",
   "Opera/9.80 (X11; Linux i686; U; es-ES) Presto/2.8.131 Version/11.11",
   "Mozilla/5.0 (Macintosh; Intel Mac OS X 10_9_3) AppleWebKit/537.75.14 (KHTML, like Gecko) Version/7.0.3 Safari/7046A194A",
   "Mozilla/5.0 (iPad; CPU OS 5_1 like Mac OS X) AppleWebKit/534.46 (KHTML, like Gecko ) Version/5.1 Mobile/9B176 Safari/7534.48.3",
   "Mozilla/5.0 (Windows; U; Windows NT 6.0; en-US) AppleWebKit/533.20.25 (KHTML, like Gecko) Version/5.0.4 Safari/533.20.27",
   "Mozilla/5.0 (iPhone; U; CPU iPhone OS 4_2_1 like Mac OS X; nb-no) AppleWebKit/533.17.9 (KHTML, like Gecko) Version/5.0.2 Mobile/8C148a Safari/6533.18.5"]

def passwordCharacters : WordTable := .ofLines
  ["0|1|2|3|4|5|6|7|8|9|A|B|C|D|E|F|G|H|I|J|K|L|M|N|O|P|Q|R|S|T|U|V|W|X|Y|Z|a|b|c|d|e|f|g|h|i|j",
   "k|l|m|n|o|p|q|r|s|t|u|v|w|x|y|z"]

def userNameWords : WordTable := .ofLines
  ["alias|consequatur|aut|perferendis|sit|voluptatem|accusantium|doloremque|aperiam|eaque|ipsa",
   "quae|ab|illo|inventore|veritatis|et|quasi|architecto|beatae|vitae|dicta|sunt|explicabo",
   "aspernatur|aut|odit|aut|fugit|sed|quia|consequuntur|magni|dolores|eos|qui|ratione|voluptatem",
   "sequi|nesciunt|neque|dolorem|ipsum|quia|dolor|sit|amet|consectetur|adipisci|velit|sed|quia",
   "non|numquam|eius|modi|tempora|incidunt|ut|labore|et|dolore|magnam|aliquam|quaerat|voluptatem",
   "ut|enim|ad|minima|veniam|quis|nostrum|exercitationem|ullam|corporis|nemo|enim|ipsam",
   "voluptatem|quia|voluptas|sit|suscipit|laboriosam|nisi|ut|aliquid|ex|ea|commodi|consequatur",
   "quis|autem|vel|eum|iure|reprehenderit|qui|in|ea|voluptate|velit|esse|quam|nihil|molestiae|et",
   "iusto|odio|dignissimos|ducimus|qui|blanditiis|praesentium|laudantium|totam|rem|voluptatum",
   "deleniti|atque|corrupti|quos|dolores|et|quas|molestias|excepturi|sint|occaecati|cupiditate",
   "non|provident|sed|ut|perspiciatis|unde|omnis|iste|natus|error|similique|sunt|in|culpa|qui",
   "officia|deserunt|mollitia|animi|id|est|laborum|et|dolorum|fuga|et|harum|quidem|rerum|facilis",
   "est|et|expedita|distinctio|nam|libero|tempore|cum|soluta|nobis|est|eligendi|optio|cumque",
   "nihil|impedit|quo|porro|quisquam|est|qui|minus|id|quod|maxime|placeat|facere|possimus|omnis",
   "voluptas|assumenda|est|omnis|dolor|repellendus|temporibus|autem|quibusdam|et|aut|consequatur",
   "vel|illum|qui|dolorem|eum|fugiat|quo|voluptas|nulla|pariatur|at|vero|eos|et|accusamus",
   "officiis|debitis|aut|rerum|necessitatibus|saepe|eveniet|ut|et|voluptates|repudiandae|sint|et",
   "molestiae|non|recusandae|itaque|earum|rerum|hic|tenetur|a|sapiente|delectus|ut|aut",
   "reiciendis|voluptatibus|maiores|doloribus|asperiores|repellat"]

end Vocabulary

end MockData
