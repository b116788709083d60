import MockData.Vocabulary.Basic

/-!
# Companies and jobs

Parts of company names, slogans and job titles, currencies, and the formats of telephone numbers. In
a format a `#` stands for a digit and a `^` for a digit other than zero.
-/

namespace MockData

namespace Vocabulary

def jobSeniorities : WordTable := .ofLines
  ["Lead|Senior|Junior|Corporate|National|Regional|District|Central|Global|International|Chief",
   "Principal"]

def jobFields : WordTable := .ofLines
  ["Marketing|IT|Accounting|Administration|Advertising|Banking|Community-Services|Construction",
   "Consulting|Design|Education|Farming|Government|Healthcare|Hospitality|Legal|Manufacturing",
   "Mining|Real-Estate|Retail|Sales|Technology"]

def jobPositions : WordTable := .ofLines
  ["Supervisor|Associate|Executive|Liaison|Officer|Manager|Engineer|Specialist|Director",
   "Coordinator|Administrator|Architect|Analyst|Designer|Planner|Orchestrator|Technician",
   "Developer|Producer|Consultant|Assistant|Facilitator|Agent|Representative|Strategist"]

def companySuffixes : WordTable := .ofLines ["Inc|and Sons|LLC|Group"]

def companySuffixesPortuguese : WordTable := .ofLines ["e Filhos|e Associados|Ltda.|S.A."]

def sloganHeads : WordTable := .ofLines
  ["Adaptive|Advanced|Ameliorated|Assimilated|Automated|Balanced|Business-focused|Centralized",
   "Cloned|Compatible|Configurable|Cross-group|Cross-platform|Customer-focused|Customizable",
   "Decentralized|De-engineered|Devolved|Digitized|Distributed|Diverse|Down-sized|Enhanced",
   "Enterprise-wide|Ergonomic|Exclusive|Expanded|Extended|Face to face|Focused|Front-line",
   "Fully-configurable|Function-based|Fundamental|Future-proofed|Grass-roots|Horizontal",
   "Implemented|Innovative|Integrated|Intuitive|Inverse|Managed|Mandatory|Monitored",
   "Multi-channelled|Multi-lateral|Multi-layered|Multi-tiered|Networked|Object-based",
   "Open-architected|Open-source|Operative|Optimized|Optional|Organic|Organized|Persevering",
   "Persistent|Phased|Polarised|Pre-emptive|Proactive|Profit-focused|Profound|Programmable",
   "Progressive|Public-key|Quality-focused|Reactive|Realigned|Re-contextualized|Re-engineered",
   "Reduced|Reverse-engineered|Right-sized|Robust|Seamless|Secured|Self-enabling|Sharable",
   "Stand-alone|Streamlined|Switchable|Synchronised|Synergistic|Synergized|Team-oriented|Total",
   "Triple-buffered|Universal|Up-sized|Upgradable|User-centric|User-friendly|Versatile|Virtual",
   "Visionary|Vision-oriented"]

def sloganMiddles : WordTable := .ofLines
  ["24 hour|24/7|3rd generation|4th generation|5th generation|6th generation|actuating|analyzing",
   "asymmetric|asynchronous|attitude-oriented|background|bandwidth-monitored|bi-directional",
   "bifurcated|bottom-line|clear-thinking|client-driven|client-server|coherent|cohesive",
   "composite|context-sensitive|contextually-based|content-based|dedicated|demand-driven",
   "didactic|directional|discrete|disintermediate|dynamic|eco-centric|empowering|encompassing",
   "even-keeled|executive|explicit|exuding|fault-tolerant|foreground|fresh-thinking|full-range",
   "global|grid-enabled|heuristic|high-level|holistic|homogeneous|human-resource|hybrid",
   "impactful|incremental|intangible|interactive|intermediate|leading edge|local|logistical",
   "maximized|methodical|mission-critical|mobile|modular|motivating|multimedia|multi-state",
   "multi-tasking|national|needs-based|neutral|next generation|non-volatile|object-oriented",
   "optimal|optimizing|radical|real-time|reciprocal|regional|responsive|scalable|secondary",
   "solution-oriented|stable|static|systematic|systemic|system-worthy|tangible|tertiary",
   "transitional|uniform|upward-trending|user-facing|value-added|web-enabled|well-modulated",
   "zero administration|zero defect|zero tolerance"]

def sloganTails : WordTable := .ofLines
  ["ability|access|adapter|algorithm|alliance|analyzer|application|approach|architecture|archive",
   "artificial intelligence|array|attitude|benchmark|budgetary management|capability|capacity",
   "challenge|circuit|collaboration|complexity|concept|conglomeration|contingency|core",
   "customer loyalty|database|data-warehouse|definition|emulation|encoding|encryption|extranet",
   "firmware|flexibility|focus group|forecast|frame|framework|function|functionalities",
   "Graphic Interface|groupware|Graphical User Interface|hardware|help-desk|hierarchy|hub",
   "implementation|info-mediaries|infrastructure|initiative|installation|instruction set",
   "interface|internet solution|intranet|knowledge user|knowledge base|local area network",
   "leverage|matrices|matrix|methodology|middleware|migration|model|moderator|monitoring",
   "moratorium|neural-net|open architecture|open system|orchestration|paradigm|parallelism",
   "policy|portal|pricing structure|process improvement|product|productivity|project|projection",
   "protocol|secured line|service-desk|software|solution|standardization|strategy|structure",
   "success|superstructure|support|synergy|system engine|task-force|throughput|time-frame",
   "toolset|utilisation|website|workforce"]

def phoneFormats : WordTable := .ofLines
  ["(^##) ###-#### x###|(^##) ###-#### x####|(^##) ###-#### x#####|(^##) ###-####",
   "1-^##-###-#### x###|1-^##-###-#### x####|1-^##-###-#### x#####|1-^##-###-####",
   "^##-###-#### x###|^##-###-#### x####|^##-###-#### x#####|^##-###-####|^##.###.#### x###",
   "^##.###.#### x####|^##.###.#### x#####|^##.###.####"]

def phoneFormatsPortuguese : WordTable := .ofLines ["(^#) 2###-####|(^#) 3###-####|(^#) 4###-####"]

def currencyCodes : WordTable := .ofLines
  ["AED|AFN|ALL|AMD|ANG|AOA|ARS|AUD|AWG|AZN|BAM|BBD|BDT|BGN|BHD|BIF|BMD|BND|BOB|BRL|BSD|BWP|BYR",
   "BZD|CAD|CDF|CHF|CLP|CNY|COP|CRC|CUP|CVE|CZK|DJF|DKK|DOP|DZD|EEK|EGP|ERN|ETB|EUR|FJD|FKP|GBP",
   "GEL|GHS|GIP|GMD|GNF|GTQ|GYD|HKD|HNL|HRK|HTG|HUF|IDR|ILS|INR|INR|IQD|IRR|ISK|JMD|JOD|JPY|KES",
   "KGS|KHR|KMF|KPW|KRW|KWD|KYD|KZT|LAK|LBP|LKR|LRD|LTL|LVL|LYD|MAD|MDL|MGA|MKD|MMK|MNT|MOP|MRO",
   "MUR|MVR|MWK|MXN|MYR|MZN|NGN|NIO|NOK|NPR|NZD|OMR|PAB|PEN|PGK|PHP|PKR|PLN|PYG|QAR|RON|RSD|RUB",
   "RWF|SAR|SBD|SCR|SDG|SEK|SGD|SHP|SLL|SOS|SRD|STD|SVC|SYP|SZL|THB|TJS|TMT|TND|TOP|TRY|TTD|TWD",
   "TZS|UAH|UGX|USD|UYU|UZS|VEF|VND|VUV|WST|XAF|XAG|XAU|XBA|XBB|XBC|XBD|XCD|XDR|XFU|XOF|XPD|XPF",
   "XPT|XTS|YER|ZAR|ZAR|ZAR|ZMK|ZWL"]

end Vocabulary

end MockData
